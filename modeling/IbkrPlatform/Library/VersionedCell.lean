import Mathlib.Data.List.Basic
import Mathlib.Order.Nat

/-! An object whose writes are conditional on the generation they replace, with the log of the
writes that were stored. -/

namespace IbkrPlatform.Library

structure StoredWrite (Value Writer : Type) where
  writer : Writer
  value : Value
  base : ℕ
  generation : ℕ

variable {Value Writer : Type}

def latest : List (StoredWrite Value Writer) → ℕ
  | [] => 0
  | w :: _ => w.generation

inductive Chained : List (StoredWrite Value Writer) → Prop
  | nil : Chained []
  | cons {w : StoredWrite Value Writer} {ws : List (StoredWrite Value Writer)} :
      w.base = latest ws → w.base < w.generation → Chained ws → Chained (w :: ws)

lemma Chained.drop {ws : List (StoredWrite Value Writer)} (h : Chained ws) (n : ℕ) :
    Chained (ws.drop n) := by
  induction h generalizing n with
  | nil => simpa using Chained.nil
  | cons hb hg hw ih =>
    cases n with
    | zero => exact .cons hb hg hw
    | succ n => exact ih n

lemma Chained.generation_le {ws : List (StoredWrite Value Writer)} (h : Chained ws)
    {w : StoredWrite Value Writer} (hw : w ∈ ws) : w.generation ≤ latest ws := by
  induction h with
  | nil => simp at hw
  | @cons v ws hb hg _ ih =>
    rcases List.mem_cons.mp hw with rfl | hw
    · exact le_rfl
    · exact (ih hw).trans (hb ▸ hg).le

lemma Chained.latest_drop_lt {ws : List (StoredWrite Value Writer)} (h : Chained ws) {n : ℕ}
    (hn : 0 < n) (hl : n ≤ ws.length) : latest (ws.drop n) < latest ws := by
  induction h generalizing n with
  | nil => simp at hl; omega
  | @cons w ws hb hg _ ih =>
    obtain ⟨m, rfl⟩ : ∃ m, n = m + 1 := ⟨n - 1, by omega⟩
    have hw : latest ws < latest (w :: ws) := hb ▸ hg
    rw [List.drop_succ_cons]
    rcases Nat.eq_zero_or_pos m with rfl | hm
    · exact hw
    · exact (ih hm (Nat.le_of_succ_le_succ hl)).trans hw

lemma Chained.bases {ws : List (StoredWrite Value Writer)} (h : Chained ws) : ws.Pairwise fun w v => v.base < w.base := by
  induction h with
  | nil => exact List.Pairwise.nil
  | @cons w ws hb hg hc ih =>
    refine List.pairwise_cons.mpr ⟨fun v hv => ?_, ih⟩
    obtain ⟨newer, older, rfl⟩ := List.append_of_mem hv
    have hlt : v.base < v.generation := by
      have hd := hc.drop newer.length
      rw [List.drop_left] at hd
      cases hd with
      | cons _ hg _ => exact hg
    exact hb ▸ hlt.trans_le (hc.generation_le hv)

/-- A request may be lost before it arrives, or its answer lost after. -/
inductive Delivery | acknowledged | unacknowledged | lost

variable (Value Writer) in
structure VersionedCell where
  log : List (StoredWrite Value Writer)
  chained : Chained log

namespace VersionedCell

def absent : VersionedCell Value Writer := ⟨[], .nil⟩

variable (c : VersionedCell Value Writer)

def generation : ℕ := latest c.log

def value : Option Value := c.log.head?.map (·.value)

def author : Option Writer := c.log.head?.map (·.writer)

def writes : ℕ := c.log.length

def rewind (n : ℕ) : VersionedCell Value Writer :=
  ⟨c.log.drop (c.writes - n), c.chained.drop _⟩

def store (writer : Writer) (value : Value) (gap : ℕ) : VersionedCell Value Writer where
  log := ⟨writer, value, c.generation, c.generation + gap + 1⟩ :: c.log
  chained := .cons rfl (by simp only; omega) c.chained

def put (writer : Writer) (value : Value) (held gap : ℕ) : VersionedCell Value Writer × Bool :=
  if c.generation = held then (c.store writer value gap, true) else (c, false)

def send (delivery : Delivery) (writer : Writer) (value : Value) (held gap : ℕ) :
    VersionedCell Value Writer × Bool :=
  match delivery with
  | .acknowledged => c.put writer value held gap
  | .unacknowledged => ((c.put writer value held gap).1, false)
  | .lost => (c, false)

def afterSend {A : Type} (stored : Bool) (delivery : Delivery) (done again unknown : A) : A :=
  if stored then done
  else match delivery with
    | .acknowledged => again
    | _ => unknown

def Extends (d : VersionedCell Value Writer) : Prop := c.log <:+ d.log

def Held (generation seen : ℕ) : Prop := seen ≤ c.writes ∧ (c.rewind seen).generation = generation

def Wrote (writer : Writer) (generation : ℕ) : Prop :=
  ∃ w ∈ c.log, w.writer = writer ∧ w.generation = generation

def Along (P : Option Value → StoredWrite Value Writer → Prop) : List (StoredWrite Value Writer) → Prop
  | [] => True
  | w :: ws => P (ws.head?.map (·.value)) w ∧ Along P ws

variable {c} {d : VersionedCell Value Writer} {writer : Writer} {value : Value}
variable {held gap generation seen : ℕ}

@[simp] lemma rewind_writes : c.rewind c.writes = c := by
  simp [rewind]

@[simp] lemma store_value : (c.store writer value gap).value = some value := rfl

@[simp] lemma store_author : (c.store writer value gap).author = some writer := rfl

@[simp] lemma store_writes : (c.store writer value gap).writes = c.writes + 1 := rfl

lemma Extends.refl : c.Extends c := List.suffix_rfl

lemma extends_store : c.Extends (c.store writer value gap) := List.suffix_cons _ _

lemma send_stored (delivery : Delivery) (c : VersionedCell Value Writer) (writer : Writer) (value : Value)
    (held gap : ℕ) : c.send delivery writer value held gap = (c, false) ∨
      c.generation = held ∧ (c.send delivery writer value held gap).1 = c.store writer value gap := by
  by_cases hg : c.generation = held
  · cases delivery with
    | lost => exact Or.inl rfl
    | acknowledged => exact Or.inr ⟨hg, by simp [send, put, hg]⟩
    | unacknowledged => exact Or.inr ⟨hg, by simp [send, put, hg]⟩
  · cases delivery <;> exact Or.inl (by simp [send, put, hg])

lemma afterSend_cases {A : Type} (c : VersionedCell Value Writer) (delivery : Delivery) (writer : Writer) (value : Value)
    (held gap : ℕ) (done again unknown : A) :
    ((c.send delivery writer value held gap).1 = c ∧
        (afterSend (c.send delivery writer value held gap).2 delivery done again unknown = again ∨
          afterSend (c.send delivery writer value held gap).2 delivery done again unknown = unknown)) ∨
      (c.generation = held ∧ (c.send delivery writer value held gap).1 = c.store writer value gap ∧
        (afterSend (c.send delivery writer value held gap).2 delivery done again unknown = done ∨
          afterSend (c.send delivery writer value held gap).2 delivery done again unknown = unknown)) := by
  by_cases hg : c.generation = held
  · cases delivery with
    | lost => exact .inl ⟨rfl, .inr rfl⟩
    | acknowledged => exact .inr ⟨hg, by simp [send, put, hg, afterSend]⟩
    | unacknowledged => exact .inr ⟨hg, by simp [send, put, hg, afterSend]⟩
  · cases delivery <;> exact .inl (by simp [send, put, hg, afterSend])

lemma Extends.rewind (h : c.Extends d) (hn : seen ≤ c.writes) : d.rewind seen = c.rewind seen := by
  obtain ⟨later, hl⟩ := h
  have hw : d.writes - seen = later.length + (c.writes - seen) := by
    simp only [writes, ← hl, List.length_append] at hn ⊢
    omega
  simp only [VersionedCell.rewind, hw, ← hl, List.drop_append]
  simp

lemma held_read : c.Held c.generation c.writes :=
  ⟨le_rfl, by rw [rewind_writes]⟩

lemma Held.extend (h : c.Held generation seen) (he : c.Extends d) : d.Held generation seen :=
  ⟨h.1.trans he.length_le, by rw [he.rewind h.1, h.2]⟩

lemma Held.current (h : c.Held generation seen) (hg : c.generation = generation) : seen = c.writes := by
  by_contra hne
  have hpos : 0 < c.writes - seen := Nat.sub_pos_of_lt (lt_of_le_of_ne h.1 hne)
  exact absurd (h.2.trans hg.symm) (c.chained.latest_drop_lt hpos (Nat.sub_le _ _)).ne

lemma Extends.generation_le (h : c.Extends d) : c.generation ≤ d.generation := by
  obtain ⟨log, chained⟩ := c
  obtain ⟨log', chained'⟩ := d
  cases log with
  | nil => exact Nat.zero_le _
  | cons w ws => exact chained'.generation_le (h.subset List.mem_cons_self)

lemma wrote_store :
    (c.store writer value gap).Wrote writer (c.store writer value gap).generation :=
  ⟨_, List.mem_cons_self, rfl, rfl⟩

lemma Wrote.extend (h : c.Wrote writer generation) (he : c.Extends d) : d.Wrote writer generation := by
  obtain ⟨w, hw, h⟩ := h
  exact ⟨w, he.mem hw, h⟩

lemma Wrote.author (h : c.Wrote writer generation) (hg : c.generation = generation) :
    c.author = some writer := by
  obtain ⟨w, hw, rfl, rfl⟩ := h
  obtain ⟨log, chained⟩ := c
  cases chained with
  | nil => simp at hw
  | @cons v ws hb hlt hc =>
    rcases List.mem_cons.mp hw with rfl | hw
    · rfl
    · have hle : w.generation ≤ v.base := hb ▸ hc.generation_le hw
      exact absurd hg (hle.trans_lt hlt).ne'

section Along

variable {P : Option Value → StoredWrite Value Writer → Prop} {ws newer older : List (StoredWrite Value Writer)}
  {w : StoredWrite Value Writer}

lemma along_store (h : Along P c.log) (hw : P c.value ⟨writer, value, c.generation, c.generation + gap + 1⟩) :
    Along P (c.store writer value gap).log :=
  ⟨hw, h⟩

lemma Along.cut (h : Along P (newer ++ w :: older)) : P (older.head?.map (·.value)) w ∧ Along P older := by
  induction newer with
  | nil => exact h
  | cons v newer ih => exact ih h.2

lemma Along.pairwise {R : StoredWrite Value Writer → StoredWrite Value Writer → Prop} (htrans : ∀ u v w, R u v → R v w → R u w)
    (hstep : ∀ w v, P (some v.value) w → R w v) (h : Along P ws) : ws.Pairwise R := by
  induction ws with
  | nil => exact List.Pairwise.nil
  | cons w ws ih =>
    refine List.pairwise_cons.mpr ⟨fun v hv => ?_, ih h.2⟩
    cases ws with
    | nil => cases hv
    | cons u ws =>
      have hwu := hstep w u h.1
      rcases List.mem_cons.mp hv with rfl | hv
      · exact hwu
      · exact htrans w u v hwu ((List.pairwise_cons.mp (ih h.2)).1 v hv)

end Along

end VersionedCell

end IbkrPlatform.Library
