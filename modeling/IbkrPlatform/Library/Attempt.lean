import Mathlib.Init

/-! Stateful computations that can fail, and the inversion of their sequencing. -/

namespace IbkrPlatform.Library

abbrev Attempt (σ ε : Type) := ExceptT ε (StateM σ)

namespace Attempt

variable {σ ε α β : Type} {x : Attempt σ ε α} {f : α → Attempt σ ε β} {s t : σ} {b : β} {e : ε}

def exec (x : Attempt σ ε α) (s : σ) : Except ε α × σ := x.run.run s

def of (f : σ → Except ε α × σ) : Attempt σ ε α := ExceptT.mk f

def total (f : σ → α × σ) : Attempt σ ε α := of fun s => (.ok (f s).1, (f s).2)

@[simp] lemma exec_of (f : σ → Except ε α × σ) : (of f).exec s = f s := rfl

@[simp] lemma exec_total (f : σ → α × σ) : (total f : Attempt σ ε α).exec s = (.ok (f s).1, (f s).2) := rfl

@[simp] lemma exec_pure (a : α) : (pure a : Attempt σ ε α).exec s = (.ok a, s) := rfl

@[simp] lemma exec_throw : (throw e : Attempt σ ε α).exec s = (.error e, s) := rfl

lemma exec_bind : (x >>= f).exec s = match x.exec s with
    | (.ok a, t) => (f a).exec t
    | (.error e, t) => (.error e, t) := by
  simp only [exec, ExceptT.run_bind, StateT.run_bind]
  change (match x.run.run s with
    | (r, t) => _ : Except ε β × σ) = _
  rcases x.run.run s with ⟨_ | _, _⟩ <;> rfl

lemma exec_bind_ok : (x >>= f).exec s = (.ok b, t) ↔ ∃ a u, x.exec s = (.ok a, u) ∧ (f a).exec u = (.ok b, t) := by
  rw [exec_bind]
  rcases x.exec s with ⟨e | a, u⟩
  · simp
  · constructor
    · exact fun h => ⟨a, u, rfl, h⟩
    · rintro ⟨a', u', hx, h⟩
      cases hx
      exact h

def Keeps (P : σ → Prop) (x : Attempt σ ε α) : Prop := ∀ s, P s → P (x.exec s).2

section Keeps

variable {P : σ → Prop}

lemma Keeps.of_exec {answer : Except ε α} (hx : Keeps P x) (h : x.exec s = (answer, t)) (hs : P s) : P t := by
  have ht := hx s hs
  rwa [h] at ht

lemma keeps_pure (a : α) : Keeps P (pure a : Attempt σ ε α) := fun _ hs => hs

lemma keeps_throw : Keeps P (throw e : Attempt σ ε α) := fun _ hs => hs

lemma keeps_of {f : σ → Except ε α × σ} (h : ∀ s, P s → P (f s).2) : Keeps P (of f) := h

lemma keeps_total {f : σ → α × σ} (h : ∀ s, P s → P (f s).2) : Keeps P (total f : Attempt σ ε α) := h

lemma keeps_bind (hx : Keeps P x) (hf : ∀ a, Keeps P (f a)) : Keeps P (x >>= f) := by
  intro s hs
  have ht := hx s hs
  rw [exec_bind]
  cases he : x.exec s with
  | mk answer t =>
    rw [he] at ht
    cases answer with
    | error e => exact ht
    | ok a => exact hf a t ht

end Keeps

def Ends (S T : σ → Prop) (y : Except ε α × σ) : Prop := T y.2 ∧ ∀ a, y.1 = .ok a → S y.2

def Leads (S T : σ → Prop) (x : Attempt σ ε α) : Prop := ∀ s, S s → Ends S T (x.exec s)

section Leads

variable {S T : σ → Prop}

lemma Keeps.leads (hx : Keeps S x) (hst : ∀ s, S s → T s) : Leads S T x :=
  fun s hs => ⟨hst _ (hx s hs), fun _ _ => hx s hs⟩

lemma leads_bind (hx : Leads S T x) (hf : ∀ a, Leads S T (f a)) : Leads S T (x >>= f) := by
  intro s hs
  have ht := hx s hs
  rw [exec_bind]
  cases he : x.exec s with
  | mk answer t =>
    rw [he] at ht
    cases answer with
    | error e => exact ⟨ht.1, fun a ha => by simp at ha⟩
    | ok a => exact hf a t (ht.2 a rfl)

end Leads

def Triple (P : σ → Prop) (Q : α → σ → Prop) (E : σ → Prop) (x : Attempt σ ε α) : Prop :=
  ∀ s, P s → match x.exec s with
    | (.ok a, t) => Q a t
    | (.error _, t) => E t

section Triple

variable {P E : σ → Prop} {Q : α → σ → Prop} {R : β → σ → Prop}

lemma Keeps.triple (hx : Keeps P x) (hq : ∀ a s, P s → Q a s) (he : ∀ s, P s → E s) : Triple P Q E x := by
  intro s hs
  have ht := hx s hs
  split
  · rename_i h
    rw [h] at ht
    exact hq _ _ ht
  · rename_i h
    rw [h] at ht
    exact he _ ht

lemma triple_pure {a : α} (h : ∀ s, P s → Q a s) : Triple P Q E (pure a : Attempt σ ε α) := fun s hs => h s hs

lemma triple_throw (h : ∀ s, P s → E s) : Triple P Q E (throw e : Attempt σ ε α) := fun s hs => h s hs

lemma triple_total {f : σ → α × σ} (h : ∀ s, P s → Q (f s).1 (f s).2) :
    Triple P Q E (total f : Attempt σ ε α) := fun s hs => h s hs

lemma triple_bind (hx : Triple P Q E x) (hf : ∀ a, Triple (Q a) R E (f a)) : Triple P R E (x >>= f) := by
  intro s hs
  have ht := hx s hs
  rw [exec_bind]
  cases he : x.exec s with
  | mk answer t =>
    rw [he] at ht
    cases answer with
    | error e => exact ht
    | ok a => exact hf a t ht

end Triple

def Sim {τ δ γ : Type} (K : σ → τ → Prop) (R : α → γ → Prop) (x : Attempt σ ε α) (y : Attempt τ δ γ) : Prop :=
  ∀ s t, K s t → K (x.exec s).2 (y.exec t).2 ∧ match (x.exec s).1, (y.exec t).1 with
    | .ok a, .ok b => R a b
    | .error _, .error _ => True
    | _, _ => False

section Sim

variable {τ δ γ ζ : Type} {K : σ → τ → Prop} {R : α → γ → Prop} {S : β → ζ → Prop} {y : Attempt τ δ γ}
  {g : γ → Attempt τ δ ζ}

lemma sim_pure {a : α} {c : γ} (h : R a c) : Sim K R (pure a : Attempt σ ε α) (pure c : Attempt τ δ γ) :=
  fun _ _ hk => ⟨hk, h⟩

lemma sim_throw {d : δ} : Sim K R (throw e : Attempt σ ε α) (throw d : Attempt τ δ γ) := fun _ _ hk => ⟨hk, trivial⟩

lemma sim_bind (hx : Sim K R x y) (hf : ∀ a c, R a c → Sim K S (f a) (g c)) : Sim K S (x >>= f) (y >>= g) := by
  intro s t hk
  obtain ⟨hk', hr⟩ := hx s t hk
  rw [exec_bind, exec_bind]
  cases hxs : x.exec s with
  | mk answer s' =>
    cases hyt : y.exec t with
    | mk answer' t' =>
      rw [hxs, hyt] at hk' hr
      cases answer with
      | error e =>
        cases answer' with
        | error d => exact ⟨hk', trivial⟩
        | ok c => exact hr.elim
      | ok a =>
        cases answer' with
        | error d => exact hr.elim
        | ok c => exact hf a c hr s' t' hk'

end Sim

def Fails (Q : ε → Prop) (x : Attempt σ ε α) : Prop := ∀ s e t, x.exec s = (.error e, t) → Q e

section Fails

variable {Q : ε → Prop}

lemma fails_pure (a : α) : Fails Q (pure a : Attempt σ ε α) := by
  intro s e t h
  simp at h

lemma fails_throw (he : Q e) : Fails Q (throw e : Attempt σ ε α) := by
  intro s e' t h
  simp only [exec_throw, Prod.mk.injEq, Except.error.injEq] at h
  exact h.1 ▸ he

lemma fails_total (f : σ → α × σ) : Fails Q (total f : Attempt σ ε α) := by
  intro s e t h
  simp at h

lemma fails_of {f : σ → Except ε α × σ} (hf : ∀ s e t, f s = (.error e, t) → Q e) : Fails Q (of f) := hf

lemma fails_bind_ok (hx : Fails Q x) (hf : ∀ s a t, x.exec s = (.ok a, t) → Fails Q (f a)) : Fails Q (x >>= f) := by
  intro s e t h
  rw [exec_bind] at h
  cases hs : x.exec s with
  | mk answer u =>
    rw [hs] at h
    cases answer with
    | error e' =>
      cases h
      exact hx s e t hs
    | ok a => exact hf s a u hs u e t h

lemma fails_bind (hx : Fails Q x) (hf : ∀ a, Fails Q (f a)) : Fails Q (x >>= f) := fails_bind_ok hx fun _ a _ _ => hf a

end Fails

end Attempt

end IbkrPlatform.Library
