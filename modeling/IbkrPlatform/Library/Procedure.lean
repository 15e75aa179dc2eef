import IbkrPlatform.Library.Dialogue

/-! Computations with a memory that ask their surroundings and can fail, and the rules for what they ask. -/

namespace IbkrPlatform.Library

namespace Dialogue

variable {Ask Answer A B : Type}

def bind : Dialogue Ask Answer A → (A → Dialogue Ask Answer B) → Dialogue Ask Answer B
  | .done a, f => f a
  | .ask q next, f => .ask q fun r => bind (next r) f

instance monad : Monad (Dialogue Ask Answer) where
  pure := .done
  bind := bind

/-- Where the answers meet `rely`, every question meets `ok` after the exchanges before it, newest first, and the end meets `Q`. -/
def Upholds (rely : List (Ask × Answer) → Prop) (ok : List (Ask × Answer) → Ask → Prop)
    (Q : List (Ask × Answer) → A → Prop) : List (Ask × Answer) → Dialogue Ask Answer A → Prop
  | h, .done a => Q h a
  | h, .ask q next => ok h q ∧ ∀ r, rely ((q, r) :: h) → Upholds rely ok Q ((q, r) :: h) (next r)

def Asked (ok : List (Ask × Answer) → Ask → Prop) : List (Ask × Answer) → Prop
  | [] => True
  | x :: h => ok h x.1 ∧ Asked ok h

variable {rely : List (Ask × Answer) → Prop} {ok : List (Ask × Answer) → Ask → Prop}
  {Q R : List (Ask × Answer) → A → Prop} {h : List (Ask × Answer)}

lemma upholds_bind {S : List (Ask × Answer) → B → Prop} {t : Dialogue Ask Answer A} {f : A → Dialogue Ask Answer B} :
    Upholds rely ok S h (t.bind f) ↔ Upholds rely ok (fun h a => Upholds rely ok S h (f a)) h t := by
  induction t generalizing h with
  | done a => exact Iff.rfl
  | ask q next ih => exact and_congr Iff.rfl (forall_congr' fun r => forall_congr' fun _ => ih r)

lemma Asked.cut {newer older : List (Ask × Answer)} {x : Ask × Answer} (ha : Asked ok (newer ++ x :: older)) : ok older x.1 := by
  induction newer with
  | nil => exact ha.1
  | cons y newer ih => exact ih ha.2

lemma Upholds.mono {t : Dialogue Ask Answer A} (ht : Upholds rely ok Q h t) (hqr : ∀ h a, Q h a → R h a) :
    Upholds rely ok R h t := by
  induction t generalizing h with
  | done a => exact hqr h a ht
  | ask q next ih => exact ⟨ht.1, fun r hr => ih r (ht.2 r hr)⟩

lemma Upholds.imp {ok' : List (Ask × Answer) → Ask → Prop} {t : Dialogue Ask Answer A} (hok : ∀ h q, ok h q → ok' h q)
    (ht : Upholds rely ok Q h t) : Upholds rely ok' Q h t := by
  induction t generalizing h with
  | done a => exact ht
  | ask q next ih => exact ⟨hok _ _ ht.1, fun r hr => ih r (ht.2 r hr)⟩

end Dialogue

open Dialogue

abbrev Procedure (Ask Answer σ ε : Type) := ExceptT ε (StateT σ (Dialogue Ask Answer))

namespace Procedure

variable {Ask Answer σ ε A B : Type}

def start (x : Procedure Ask Answer σ ε A) (s : σ) : Dialogue Ask Answer (Except ε A × σ) := x.run.run s

def ask (q : Ask) : Procedure Ask Answer σ ε Answer := ExceptT.mk fun s => .ask q fun r => .done (.ok r, s)

def raiseFrom : Except ε A → Procedure Ask Answer σ ε A
  | .ok a => pure a
  | .error e => throw e

def caught (x : Procedure Ask Answer σ ε A) : Procedure Ask Answer σ ε (Except ε A) :=
  tryCatch (x >>= fun a => pure (.ok a)) fun e => pure (.error e)

def ensuring (x : Procedure Ask Answer σ ε A) (g : σ → σ) : Procedure Ask Answer σ ε A := do
  match ← caught x with
  | .ok a =>
    modify g
    return a
  | .error e =>
    modify g
    throw e

def Judged (Q : A → List (Ask × Answer) → σ → Prop) (E : ε → List (Ask × Answer) → σ → Prop) (h : List (Ask × Answer)) :
    Except ε A × σ → Prop
  | (.ok a, s) => Q a h s
  | (.error e, s) => E e h s

section Holds

variable (rely : List (Ask × Answer) → Prop) (ok : List (Ask × Answer) → Ask → Prop)

def Holds (x : Procedure Ask Answer σ ε A) (Q : A → List (Ask × Answer) → σ → Prop)
    (E : ε → List (Ask × Answer) → σ → Prop) (h : List (Ask × Answer)) (s : σ) : Prop :=
  Upholds rely ok (Judged Q E) h (x.start s)

variable {rely ok} {x : Procedure Ask Answer σ ε A} {f : A → Procedure Ask Answer σ ε B}
  {Q R : A → List (Ask × Answer) → σ → Prop} {S : B → List (Ask × Answer) → σ → Prop}
  {E F : ε → List (Ask × Answer) → σ → Prop} {h : List (Ask × Answer)} {s : σ}

@[simp] lemma holds_pure {a : A} : Holds rely ok (pure a) Q E h s ↔ Q a h s := Iff.rfl

@[simp] lemma holds_throw {e : ε} : Holds rely ok (throw e) Q E h s ↔ E e h s := Iff.rfl

lemma start_bind : (x >>= f).start s = (x.start s).bind fun y => match y with
    | (.ok a, t) => (f a).start t
    | (.error e, t) => .done (.error e, t) := by
  simp only [start, ExceptT.run_bind, StateT.run_bind]
  change Dialogue.bind _ _ = _
  congr 1
  funext y
  rcases y with ⟨_ | _, _⟩ <;> rfl

@[simp] lemma holds_bind :
    Holds rely ok (x >>= f) S E h s ↔ Holds rely ok x (fun a h s => Holds rely ok (f a) S E h s) E h s := by
  rw [Holds, start_bind, upholds_bind, Holds]
  have hj : ∀ h (y : Except ε A × σ), Upholds rely ok (Judged S E) h (match y with
      | (.ok a, t) => (f a).start t
      | (.error e, t) => .done (.error e, t)) ↔ Judged (fun a h s => Holds rely ok (f a) S E h s) E h y := by
    rintro h ⟨_ | _, _⟩ <;> exact Iff.rfl
  simp only [hj]

@[simp] lemma holds_ask {q : Ask} {Q : Answer → List (Ask × Answer) → σ → Prop} :
    Holds rely ok (ask q) Q E h s ↔ ok h q ∧ ∀ r, rely ((q, r) :: h) → Q r ((q, r) :: h) s := Iff.rfl

@[simp] lemma holds_get {Q : σ → List (Ask × Answer) → σ → Prop} :
    Holds rely ok (get : Procedure Ask Answer σ ε σ) Q E h s ↔ Q s h s := Iff.rfl

@[simp] lemma holds_modify {g : σ → σ} {Q : Unit → List (Ask × Answer) → σ → Prop} :
    Holds rely ok (modify g : Procedure Ask Answer σ ε Unit) Q E h s ↔ Q () h (g s) := Iff.rfl

@[simp] lemma holds_tryCatch {c : ε → Procedure Ask Answer σ ε A} :
    Holds rely ok (tryCatch x c) Q E h s ↔ Holds rely ok x Q (fun e h s => Holds rely ok (c e) Q E h s) h s := by
  have hs : (tryCatch x c).start s = (x.start s).bind fun y => match y with
      | (.ok a, t) => .done (.ok a, t)
      | (.error e, t) => (c e).start t := by
    change Dialogue.bind _ _ = _
    congr 1
    funext y
    rcases y with ⟨_ | _, _⟩ <;> rfl
  have hj : ∀ h (y : Except ε A × σ), Upholds rely ok (Judged Q E) h (match y with
      | (.ok a, t) => .done (.ok a, t)
      | (.error e, t) => (c e).start t) ↔ Judged Q (fun e h s => Holds rely ok (c e) Q E h s) h y := by
    rintro h ⟨_ | _, _⟩ <;> exact Iff.rfl
  rw [Holds, hs, upholds_bind, Holds]
  simp only [hj]

lemma Holds.mono (hx : Holds rely ok x Q E h s) (hq : ∀ a h s, Q a h s → R a h s) (he : ∀ e h s, E e h s → F e h s) :
    Holds rely ok x R F h s := by
  refine Upholds.mono hx ?_
  rintro h ⟨_ | _, t⟩ hy
  · exact he _ _ _ hy
  · exact hq _ _ _ hy

def Triple (rely : List (Ask × Answer) → Prop) (ok : List (Ask × Answer) → Ask → Prop) (P : List (Ask × Answer) → σ → Prop)
    (x : Procedure Ask Answer σ ε A) (Q : A → List (Ask × Answer) → σ → Prop) (E : ε → List (Ask × Answer) → σ → Prop) : Prop :=
  ∀ h s, P h s → Holds rely ok x Q E h s

variable {P P' : List (Ask × Answer) → σ → Prop}

lemma Triple.mono (hx : Triple rely ok P x Q E) (hp : ∀ h s, P' h s → P h s) (hq : ∀ a h s, Q a h s → R a h s)
    (he : ∀ e h s, E e h s → F e h s) : Triple rely ok P' x R F :=
  fun h s hs => (hx h s (hp h s hs)).mono hq he

lemma triple_pure {a : A} (hq : ∀ h s, P h s → Q a h s) : Triple rely ok P (pure a) Q E := hq

lemma triple_throw {e : ε} (he : ∀ h s, P h s → E e h s) : Triple rely ok P (throw e) Q E := he

lemma triple_raiseFrom {value : Except ε A} (hq : ∀ a, value = .ok a → ∀ h s, P h s → Q a h s)
    (he : ∀ e, value = .error e → ∀ h s, P h s → E e h s) : Triple rely ok P (raiseFrom value) Q E := by
  cases value with
  | ok a => exact triple_pure (hq a rfl)
  | error e => exact triple_throw (he e rfl)

lemma triple_bind (hx : Triple rely ok P x Q E) (hf : ∀ a, Triple rely ok (Q a) (f a) S E) : Triple rely ok P (x >>= f) S E :=
  fun h s hs => holds_bind.mpr ((hx h s hs).mono (fun a h s => hf a h s) fun _ _ _ he => he)

lemma triple_get {g : σ → Procedure Ask Answer σ ε B} (hg : ∀ m, Triple rely ok (fun h s => P h s ∧ s = m) (g m) S E) :
    Triple rely ok P (get >>= g) S E :=
  fun h s hs => hg s h s ⟨hs, rfl⟩

lemma triple_modify {g : σ → σ} {Q : Unit → List (Ask × Answer) → σ → Prop} (hq : ∀ h s, P h s → Q () h (g s)) :
    Triple rely ok P (modify g) Q E := hq

lemma triple_ask {q : Ask} {Q : Answer → List (Ask × Answer) → σ → Prop}
    (hq : ∀ h s, P h s → ok h q ∧ ∀ r, rely ((q, r) :: h) → Q r ((q, r) :: h) s) : Triple rely ok P (ask q) Q E := hq

lemma triple_tryCatch {c : ε → Procedure Ask Answer σ ε A} (hx : Triple rely ok P x Q F) (hc : ∀ e, Triple rely ok (F e) (c e) Q E) :
    Triple rely ok P (tryCatch x c) Q E :=
  fun h s hs => holds_tryCatch.mpr ((hx h s hs).mono (fun _ _ _ hq => hq) fun e h s => hc e h s)

lemma triple_caught (hx : Triple rely ok P x Q E) :
    Triple rely ok P (caught x) (fun r h s => match r with
      | .ok a => Q a h s
      | .error e => E e h s) F :=
  triple_tryCatch (triple_bind hx fun _ => triple_pure fun _ _ hq => hq) fun _ => triple_pure fun _ _ he => he

lemma triple_ensuring {g : σ → σ} (hx : Triple rely ok P x (fun a h s => Q a h (g s)) fun e h s => E e h (g s)) :
    Triple rely ok P (ensuring x g) Q E := by
  refine triple_bind (triple_caught hx) fun r => ?_
  cases r with
  | ok a => exact triple_bind (triple_modify fun h s hq => hq) fun _ => triple_pure fun h s hq => hq
  | error e => exact triple_bind (triple_modify fun h s he => he) fun _ => triple_throw fun h s he => he

lemma triple_of_imp {p : Prop} (hx : p → Triple rely ok P x Q E) : Triple rely ok (fun h s => P h s ∧ p) x Q E :=
  fun h s hs => hx hs.2 h s hs.1

end Holds

end Procedure

end IbkrPlatform.Library
