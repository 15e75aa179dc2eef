import Mathlib.Data.List.Induction

/-! Labelled transition systems: runs, reachable states, and the rules for what every run keeps. -/

namespace IbkrPlatform.Library

structure System (State Label : Type) where
  init : State → Prop
  next : State → Label → State → Prop

namespace System

variable {State Label : Type} (S : System State Label)

inductive Run : State → List Label → State → Prop
  | nil (s : State) : Run s [] s
  | snoc {s t u : State} {ls : List Label} {l : Label} :
      Run s ls t → S.next t l u → Run s (ls ++ [l]) u

def Reachable (s : State) : Prop := ∃ start ls, S.init start ∧ S.Run start ls s

variable {S}

lemma Run.trans {s t u : State} {ks ls : List Label} (h : S.Run s ks t) (h' : S.Run t ls u) :
    S.Run s (ks ++ ls) u := by
  induction h' with
  | nil => simpa using h
  | snoc _ hn ih => simpa only [List.append_assoc] using ih.snoc hn

lemma Run.single {s t : State} {l : Label} (h : S.next s l t) : S.Run s [l] t :=
  (Run.nil s).snoc h

lemma Reachable.extend {s t : State} {ls : List Label} (h : S.Reachable s) (hr : S.Run s ls t) :
    S.Reachable t := by
  obtain ⟨start, ks, hi, hk⟩ := h
  exact ⟨start, ks ++ ls, hi, hk.trans hr⟩

lemma Run.invariant {I : State → Prop} (hstep : ∀ s l t, I s → S.next s l t → I t)
    {s t : State} {ls : List Label} (h : S.Run s ls t) (hs : I s) : I t := by
  induction h with
  | nil => exact hs
  | snoc _ hn ih => exact hstep _ _ _ ih hn

lemma Reachable.invariant {I : State → Prop} (hinit : ∀ s, S.init s → I s)
    (hstep : ∀ s l t, I s → S.next s l t → I t) {s : State} (h : S.Reachable s) : I s := by
  obtain ⟨start, ls, hi, hr⟩ := h
  exact hr.invariant hstep (hinit start hi)

lemma Run.history {I : List Label → State → Prop}
    (hstep : ∀ ls s l t, I ls s → S.next s l t → I (ls ++ [l]) t)
    {s t : State} {ls : List Label} (h : S.Run s ls t) (hs : I [] s) : I ls t := by
  induction h with
  | nil => exact hs
  | snoc _ hn ih => exact hstep _ _ _ _ ih hn

lemma Run.last {s u : State} {ls : List Label} {l : Label} (h : S.Run s (ls ++ [l]) u) :
    ∃ t, S.Run s ls t ∧ S.next t l u := by
  generalize hm : ls ++ [l] = ms at h
  cases h with
  | nil => simp at hm
  | snoc hr hn =>
    obtain ⟨rfl, hl⟩ := List.append_inj' hm rfl
    obtain rfl := List.singleton_inj.mp hl
    exact ⟨_, hr, hn⟩

lemma Run.cut {s u : State} {ks ls : List Label} (h : S.Run s (ks ++ ls) u) :
    ∃ t, S.Run s ks t ∧ S.Run t ls u := by
  induction ls using List.reverseRecOn generalizing u with
  | nil => exact ⟨u, by simpa using h, .nil u⟩
  | append_singleton ls l ih =>
    rw [← List.append_assoc] at h
    obtain ⟨v, hr, hn⟩ := h.last
    obtain ⟨t, hs, ht⟩ := ih hr
    exact ⟨t, hs, ht.snoc hn⟩

def during (S : System State Label) (P : State → Label → Prop) : System State Label where
  init := S.init
  next s l t := P s l ∧ S.next s l t

variable (init : State → Prop) (step : State → Label → Option State)

def ofStep : System State Label where
  init := init
  next s l t := step s l = some t

def execute (s : State) : List Label → Option State
  | [] => some s
  | l :: ls => (step s l).bind fun t => execute t ls

variable {init step}

lemma execute_append {s : State} {ks ls : List Label} :
    execute step s (ks ++ ls) = (execute step s ks).bind fun t => execute step t ls := by
  induction ks generalizing s with
  | nil => rfl
  | cons k ks ih =>
    simp only [List.cons_append, execute, Option.bind_assoc]
    exact congrArg _ (funext fun t => ih)

lemma run_of_execute {s t : State} {ls : List Label} (h : execute step s ls = some t) :
    (ofStep init step).Run s ls t := by
  induction ls generalizing s with
  | nil =>
    obtain rfl := Option.some.inj h
    exact .nil s
  | cons l ls ih =>
    obtain ⟨u, hu, ht⟩ := Option.bind_eq_some_iff.mp h
    exact (Run.single (S := ofStep init step) hu).trans (ih ht)

lemma run_of_execute_during {P : State → Label → Prop} [∀ s l, Decidable (P s l)] {s t : State} {ls : List Label}
    (h : execute (fun s l => if P s l then step s l else none) s ls = some t) : ((ofStep init step).during P).Run s ls t := by
  induction ls generalizing s with
  | nil =>
    obtain rfl := Option.some.inj h
    exact .nil s
  | cons l ls ih =>
    obtain ⟨u, hu, ht⟩ := Option.bind_eq_some_iff.mp h
    by_cases hp : P s l
    · have hs : step s l = some u := by simpa [hp] using hu
      have hnext : ((ofStep init step).during P).next s l u := ⟨hp, hs⟩
      exact (Run.single hnext).trans (ih ht)
    · simp [hp] at hu

end System

end IbkrPlatform.Library
