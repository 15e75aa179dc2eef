import Mathlib.Init

/-! Computations that call back, the handlers that serve them, and the rules for what a handler keeps. -/

namespace IbkrPlatform.Library

inductive Dialogue (Ask Answer A : Type)
  | done (a : A)
  | ask (q : Ask) (next : Answer → Dialogue Ask Answer A)

namespace Dialogue

variable {Ask Answer A σ π : Type}

def serve (h : σ → Ask → σ × Answer) : σ → Dialogue Ask Answer A → σ × A
  | s, .done a => (s, a)
  | s, .ask q next => serve h (h s q).1 (next (h s q).2)

def All (P : A → Prop) : Dialogue Ask Answer A → Prop
  | .done a => P a
  | .ask _ next => ∀ r, All P (next r)

def Obeys (ok : π → Ask → Prop) (advance : π → Ask → Answer → π) : π → Dialogue Ask Answer A → Prop
  | _, .done _ => True
  | p, .ask q next => ok p q ∧ ∀ r, Obeys ok advance (advance p q r) (next r)

variable {h : σ → Ask → σ × Answer} {P : A → Prop}

lemma serve_all {t : Dialogue Ask Answer A} (ht : All P t) (s : σ) : P (serve h s t).2 := by
  induction t generalizing s with
  | done a => exact ht
  | ask q next ih => exact ih _ (ht _) _

lemma serve_obeys {ok : π → Ask → Prop} {advance : π → Ask → Answer → π} {I : π → σ → Prop}
    (hstep : ∀ p s q, I p s → ok p q → I (advance p q (h s q).2) (h s q).1)
    {t : Dialogue Ask Answer A} {p : π} {s : σ} (ht : Obeys ok advance p t) (hs : I p s) :
    ∃ p', I p' (serve h s t).1 := by
  induction t generalizing p s with
  | done a => exact ⟨p, hs⟩
  | ask q next ih => exact ih _ (ht.2 _) (hstep p s q hs ht.1)

end Dialogue

end IbkrPlatform.Library
