import Mathlib.Algebra.Order.Field.Power
import Mathlib.Algebra.Order.Floor.Ring
import Mathlib.Data.Nat.Log
import Mathlib.Data.Rat.Cast.Order
import Mathlib.Tactic.Linarith
import Mathlib.Tactic.FieldSimp
import Mathlib.Tactic.Ring

/-! Decimal floating-point numbers, and the arithmetic of a context that rounds half to even. -/

namespace IbkrPlatform.Library

structure Decimal where
  negative : Bool
  coefficient : ℕ
  exponent : ℤ
deriving DecidableEq

namespace Decimal

def signed (negative : Bool) (n : ℕ) : ℤ := if negative then -n else n

def value (d : Decimal) : ℚ := signed d.negative d.coefficient * (10 : ℚ) ^ d.exponent

def zero : Decimal := ⟨false, 0, 0⟩

def neg (d : Decimal) : Decimal := { d with negative := !d.negative }

def digits (n : ℕ) : ℕ := Nat.log 10 n + 1

def ofInt (n : ℤ) (zeroSign : Bool) (exponent : ℤ) : Decimal :=
  ⟨if n = 0 then zeroSign else decide (n < 0), n.natAbs, exponent⟩

def aligned (d : Decimal) (e : ℤ) : ℤ := signed d.negative (d.coefficient * 10 ^ (d.exponent - e).toNat)

def plus (a b : Decimal) : Decimal :=
  let e := min a.exponent b.exponent
  ofInt (a.aligned e + b.aligned e) (a.negative && b.negative) e

@[simp] lemma value_zero : zero.value = 0 := by
  simp [value, zero, signed]

@[simp] lemma value_neg (d : Decimal) : d.neg.value = -d.value := by
  cases hd : d.negative <;> simp [value, neg, signed, hd]

lemma natAbs_signed (negative : Bool) (n : ℕ) : (signed negative n).natAbs = n := by
  cases negative <;> simp [signed]

lemma abs_value (d : Decimal) : |d.value| = d.coefficient * (10 : ℚ) ^ d.exponent := by
  have hs : |((signed d.negative d.coefficient : ℤ) : ℚ)| = d.coefficient := by
    rw [← Int.cast_abs, Int.abs_eq_natAbs, natAbs_signed, Int.cast_natCast]
  rw [value, abs_mul, hs, abs_of_pos (zpow_pos (by decide) _)]

lemma value_ofInt (n : ℤ) (zeroSign : Bool) (e : ℤ) : (ofInt n zeroSign e).value = n * (10 : ℚ) ^ e := by
  have hs : signed (if n = 0 then zeroSign else decide (n < 0)) n.natAbs = n := by
    by_cases hz : n = 0
    · simp [signed, hz]
    · by_cases hn : n < 0
      · simp [signed, hz, hn, abs_of_neg hn]
      · simp [signed, hz, hn, abs_of_nonneg (not_lt.mp hn)]
  rw [value, ofInt, hs]

lemma aligned_value {d : Decimal} {e : ℤ} (h : e ≤ d.exponent) : (d.aligned e : ℚ) * (10 : ℚ) ^ e = d.value := by
  have hk : ((d.exponent - e).toNat : ℤ) = d.exponent - e := Int.toNat_of_nonneg (by omega)
  have hp : (10 : ℚ) ^ (d.exponent - e).toNat * (10 : ℚ) ^ e = (10 : ℚ) ^ d.exponent := by
    rw [← zpow_natCast, hk, ← zpow_add₀ (by decide)]
    congr 1
    omega
  cases hd : d.negative <;> simp only [aligned, value, signed, hd] <;> push_cast <;> rw [← hp] <;> ring

lemma value_plus (a b : Decimal) : (a.plus b).value = a.value + b.value := by
  rw [plus, value_ofInt, Int.cast_add, add_mul, aligned_value (min_le_left _ _), aligned_value (min_le_right _ _)]

end Decimal

open Decimal

/-- A decimal context whose overflows raise. -/
structure Context where
  prec : ℕ
  emax : ℤ
  emin : ℤ
  prec_pos : 0 < prec

namespace Context

variable (c : Context)

def etiny : ℤ := c.emin - (c.prec - 1)

def halfEven (n unit : ℕ) : ℕ :=
  if 2 * (n % unit) < unit ∨ 2 * (n % unit) = unit ∧ n / unit % 2 = 0 then n / unit else n / unit + 1

def grain (d : Decimal) : ℤ := max c.etiny (d.exponent + digits d.coefficient - c.prec)

def shorten (d : Decimal) : Decimal :=
  let e := c.grain d
  if e ≤ d.exponent then d
  else
    let q := halfEven d.coefficient (10 ^ (e - d.exponent).toNat)
    if q = 10 ^ c.prec then ⟨d.negative, 10 ^ (c.prec - 1), e + 1⟩ else ⟨d.negative, q, e⟩

/-- The result of an operation whose exact value is given; `none` is an overflow. -/
def round (d : Decimal) : Option Decimal :=
  if d.coefficient = 0 then some { d with exponent := max c.etiny (min c.emax d.exponent) }
  else
    let r := c.shorten d
    if c.emax < r.exponent + digits r.coefficient - 1 then none else some r

def add (a b : Decimal) : Option Decimal := c.round (a.plus b)

def sub (a b : Decimal) : Option Decimal := c.add a b.neg

def sum (start : Decimal) : List Decimal → Option Decimal
  | [] => some start
  | d :: ds => (c.add start d).bind fun r => sum r ds

def trim : ℕ → ℕ → ℤ → ℕ × ℤ
  | 0, n, e => (n, e)
  | steps + 1, n, e => if n % 10 = 0 then trim steps (n / 10) (e + 1) else (n, e)

/-- The quotient before it is rounded, with a digit that decides the rounding where it does not end. -/
def quotient (a b : Decimal) : Decimal :=
  let negative := a.negative != b.negative
  if a.coefficient = 0 then ⟨negative, 0, a.exponent - b.exponent⟩
  else
    let shift : ℤ := digits b.coefficient - digits a.coefficient + c.prec + 1
    let num := a.coefficient * 10 ^ shift.toNat
    let den := b.coefficient * 10 ^ (-shift).toNat
    let e := a.exponent - b.exponent - shift
    if num % den = 0 then
      let t := trim shift.toNat (num / den) e
      ⟨negative, t.1, t.2⟩
    else ⟨negative, if num / den % 5 = 0 then num / den + 1 else num / den, e⟩

def divide (a b : Decimal) : Option Decimal := c.round (c.quotient a b)

def Representable (x : ℚ) : Prop :=
  ∃ n e : ℤ, x = n * (10 : ℚ) ^ e ∧ n.natAbs < 10 ^ c.prec ∧ c.etiny ≤ e

def Fits (x : ℚ) : List ℚ → Prop
  | [] => True
  | y :: ys => c.Representable (x + y) ∧ Fits (x + y) ys

variable {c} {d r a b : Decimal}

lemma lt_digits (n : ℕ) : n < 10 ^ digits n := Nat.lt_pow_succ_log_self (by decide) n

lemma digits_le {n k : ℕ} (h : n < 10 ^ k) (hk : 0 < k) : digits n ≤ k := by
  by_cases hn : n = 0
  · subst hn
    simp only [digits, Nat.log_zero_right]
    exact hk
  · exact (Nat.log_lt_iff_lt_pow (by decide) hn).mpr h

lemma le_pow_digits {n : ℕ} (hn : n ≠ 0) : 10 ^ (digits n - 1) ≤ n := Nat.pow_log_le_self 10 hn

lemma halfEven_le {n unit bound : ℕ} (hu : 0 < unit) (h : n ≤ bound * unit) : halfEven n unit ≤ bound := by
  have hq : n / unit ≤ bound := Nat.div_le_of_le_mul (by rwa [Nat.mul_comm])
  unfold halfEven
  split_ifs with hr
  · exact hq
  · rcases hq.lt_or_eq with hlt | heq
    · exact hlt
    · have hdm := Nat.div_add_mod n unit
      rw [heq, Nat.mul_comm] at hdm
      exact absurd (Or.inl (by omega)) hr

lemma halfEven_mul (q : ℕ) {unit : ℕ} (hu : 0 < unit) : halfEven (q * unit) unit = q := by
  simp [halfEven, hu]

lemma shorten_negative : (c.shorten d).negative = d.negative := by
  unfold shorten
  extract_lets
  split_ifs <;> rfl

lemma shorten_fits : (c.shorten d).coefficient < 10 ^ c.prec ∧ c.etiny ≤ (c.shorten d).exponent := by
  have hp := c.prec_pos
  have htiny : c.etiny ≤ c.grain d := le_max_left _ _
  have hgrain : d.exponent + digits d.coefficient - c.prec ≤ c.grain d := le_max_right _ _
  unfold shorten
  extract_lets e q
  split_ifs with he hq
  · refine ⟨(lt_digits _).trans_le (Nat.pow_le_pow_right (by decide) (by omega)), htiny.trans he⟩
  · exact ⟨Nat.pow_lt_pow_right (by decide) (by omega), htiny.trans (by change c.grain d ≤ c.grain d + 1; omega)⟩
  · refine ⟨lt_of_le_of_ne (halfEven_le (by positivity) ?_) hq, htiny⟩
    rw [← pow_add]
    exact (lt_digits _).le.trans (Nat.pow_le_pow_right (by decide) (by omega))

lemma representable_shorten : c.Representable (c.shorten d).value :=
  ⟨_, _, rfl, by rw [natAbs_signed]; exact shorten_fits.1, shorten_fits.2⟩

lemma value_of_parts {x y : Decimal} (hs : x.negative = y.negative)
    (h : (x.coefficient : ℚ) * (10 : ℚ) ^ x.exponent = y.coefficient * (10 : ℚ) ^ y.exponent) : x.value = y.value := by
  unfold value signed
  rw [hs]
  split_ifs
  · push_cast
    rw [neg_mul, neg_mul, h]
  · exact_mod_cast h

lemma value_shorten {k q : ℕ} (hk : c.grain d = d.exponent + k) (hpos : 0 < k) (hq : d.coefficient = q * 10 ^ k) :
    (c.shorten d).value = d.value := by
  have hdrop : ¬ c.grain d ≤ d.exponent := by omega
  have hunit : (c.grain d - d.exponent).toNat = k := by omega
  have hhalf : halfEven d.coefficient (10 ^ k) = q := by
    rw [hq]
    exact halfEven_mul q (by positivity)
  have hvalue : (d.coefficient : ℚ) * (10 : ℚ) ^ d.exponent = q * (10 : ℚ) ^ c.grain d := by
    rw [hk, zpow_add₀ (by decide), zpow_natCast, hq]
    push_cast
    ring
  refine value_of_parts shorten_negative ?_
  rw [hvalue]
  simp only [shorten, if_neg hdrop, hunit, hhalf]
  split_ifs with hc
  · have hp : ((c.prec - 1 : ℕ) : ℤ) + (c.grain d + 1) = (c.prec : ℤ) + c.grain d := by
      have := c.prec_pos
      omega
    rw [hc, Nat.cast_pow, Nat.cast_pow, ← zpow_natCast, ← zpow_natCast, Nat.cast_ofNat, ← zpow_add₀ (by decide),
      ← zpow_add₀ (by decide), hp]
  · rfl

lemma grain_le {n e : ℤ} (hz : d.coefficient ≠ 0) (hn : n.natAbs < 10 ^ c.prec) (hetiny : c.etiny ≤ e)
    (habs : (d.coefficient : ℚ) * (10 : ℚ) ^ d.exponent = n.natAbs * (10 : ℚ) ^ e) : c.grain d ≤ e := by
  refine max_le hetiny ?_
  by_contra hlt
  have hlow : (10 : ℚ) ^ ((digits d.coefficient - 1 : ℕ) : ℤ) ≤ d.coefficient := by
    exact_mod_cast le_pow_digits hz
  have hhigh : (n.natAbs : ℚ) < (10 : ℚ) ^ (c.prec : ℤ) := by exact_mod_cast hn
  have hsize : 1 ≤ digits d.coefficient := by simp [digits]
  have hlt' : (n.natAbs : ℚ) * (10 : ℚ) ^ e < d.coefficient * (10 : ℚ) ^ d.exponent := by
    calc (n.natAbs : ℚ) * (10 : ℚ) ^ e < (10 : ℚ) ^ (c.prec : ℤ) * (10 : ℚ) ^ e :=
          mul_lt_mul_of_pos_right hhigh (zpow_pos (by decide) _)
      _ = (10 : ℚ) ^ ((c.prec : ℤ) + e) := (zpow_add₀ (by decide) _ _).symm
      _ ≤ (10 : ℚ) ^ (((digits d.coefficient - 1 : ℕ) : ℤ) + d.exponent) := zpow_le_zpow_right₀ (by decide) (by omega)
      _ = (10 : ℚ) ^ ((digits d.coefficient - 1 : ℕ) : ℤ) * (10 : ℚ) ^ d.exponent := zpow_add₀ (by decide) _ _
      _ ≤ d.coefficient * (10 : ℚ) ^ d.exponent := mul_le_mul_of_nonneg_right hlow (zpow_nonneg (by decide) _)
  exact absurd habs.symm hlt'.ne

lemma shorten_exact (h : c.Representable d.value) : (c.shorten d).value = d.value := by
  by_cases he : c.grain d ≤ d.exponent
  · simp [shorten, he]
  obtain ⟨k, hk⟩ : ∃ k : ℕ, c.grain d = d.exponent + k := ⟨(c.grain d - d.exponent).toNat, by omega⟩
  by_cases hz : d.coefficient = 0
  · exact value_shorten hk (by omega) (q := 0) (by simp [hz])
  obtain ⟨n, e, hv, hn, hetiny⟩ := h
  have habs : (d.coefficient : ℚ) * (10 : ℚ) ^ d.exponent = n.natAbs * (10 : ℚ) ^ e := by
    rw [← abs_value, hv, abs_mul, abs_of_pos (zpow_pos (by decide : (0 : ℚ) < 10) _), Nat.cast_natAbs, Int.cast_abs]
  have hge := grain_le hz hn hetiny habs
  obtain ⟨m, hm⟩ : ∃ m : ℕ, e = d.exponent + k + m := ⟨(e - c.grain d).toNat, by omega⟩
  refine value_shorten hk (by omega) (q := n.natAbs * 10 ^ m) ?_
  have hne : (10 : ℚ) ^ d.exponent ≠ 0 := zpow_ne_zero _ (by decide)
  have hcast : (d.coefficient : ℚ) = n.natAbs * (10 : ℚ) ^ m * (10 : ℚ) ^ k := by
    apply mul_right_cancel₀ hne
    rw [habs, hm, zpow_add₀ (by decide), zpow_add₀ (by decide), zpow_natCast, zpow_natCast]
    ring
  exact_mod_cast hcast

lemma round_exact_iff (h : c.round d = some r) : r.value = d.value ↔ c.Representable d.value := by
  unfold round at h
  extract_lets s at h
  split_ifs at h with hz ho
  · have hzero : d.value = 0 := by simp [value, hz, signed]
    have hr : r.value = 0 := by rw [← Option.some.inj h]; simp [value, hz, signed]
    rw [hzero, hr]
    exact ⟨fun _ => ⟨0, c.etiny, by simp, by positivity, le_rfl⟩, fun _ => rfl⟩
  · rw [← Option.some.inj h]
    exact ⟨fun hv => hv ▸ representable_shorten, shorten_exact⟩

lemma representable_round (h : c.round d = some r) : c.Representable r.value := by
  unfold round at h
  extract_lets s at h
  split_ifs at h with hz ho
  · have hr : r.value = 0 := by rw [← Option.some.inj h]; simp [value, hz, signed]
    exact ⟨0, c.etiny, by simp [hr], by positivity, le_rfl⟩
  · exact Option.some.inj h ▸ representable_shorten

lemma add_exact_iff (h : c.add a b = some r) : r.value = a.value + b.value ↔ c.Representable (a.value + b.value) := by
  rw [← value_plus]
  exact round_exact_iff h

lemma sub_exact_iff (h : c.sub a b = some r) : r.value = a.value - b.value ↔ c.Representable (a.value - b.value) := by
  rw [sub_eq_add_neg, ← value_neg]
  exact add_exact_iff h

lemma sum_exact {start : Decimal} {ds : List Decimal} (h : c.sum start ds = some r)
    (hf : c.Fits start.value (ds.map value)) : r.value = start.value + (ds.map value).sum := by
  induction ds generalizing start with
  | nil => simp [← Option.some.inj h]
  | cons d ds ih =>
    obtain ⟨s, hs, h⟩ := Option.bind_eq_some_iff.mp h
    obtain ⟨hrepresentable, hf⟩ := hf
    have hvalue := (add_exact_iff hs).mpr hrepresentable
    rw [ih h (hvalue ▸ hf), hvalue, List.map_cons, List.sum_cons, add_assoc]

lemma fits_of_sizes {k : ℕ} {m : ℤ} (ns : List ℤ) (hk : c.etiny ≤ -(k : ℤ))
    (hsize : m.natAbs + (ns.map Int.natAbs).sum < 10 ^ c.prec) :
    c.Fits (m * (10 : ℚ) ^ (-(k : ℤ))) (ns.map fun n : ℤ => (n : ℚ) * (10 : ℚ) ^ (-(k : ℤ))) := by
  induction ns generalizing m with
  | nil => trivial
  | cons n ns ih =>
    simp only [List.map_cons, List.sum_cons] at hsize
    have habs := Int.natAbs_add_le m n
    rw [List.map_cons, Fits, ← add_mul, ← Int.cast_add]
    exact ⟨⟨m + n, -k, rfl, by omega, hk⟩, ih (by omega)⟩

lemma value_trim (negative : Bool) (steps n : ℕ) (e : ℤ) :
    (⟨negative, (trim steps n e).1, (trim steps n e).2⟩ : Decimal).value = (⟨negative, n, e⟩ : Decimal).value := by
  induction steps generalizing n e with
  | zero => rfl
  | succ steps ih =>
    rw [trim]
    split_ifs with hn
    · rw [ih]
      refine value_of_parts rfl ?_
      have hdiv : n = n / 10 * 10 := by omega
      have hcast : (n : ℚ) = (n / 10 : ℕ) * 10 := by exact_mod_cast hdiv
      change ((n / 10 : ℕ) : ℚ) * (10 : ℚ) ^ (e + 1) = n * (10 : ℚ) ^ e
      rw [hcast, zpow_add_one₀ (by decide)]
      ring
    · rfl

lemma scaled_operands (ha : a.coefficient ≠ 0) {shift : ℤ}
    (hs : shift = digits b.coefficient - digits a.coefficient + c.prec + 1) :
    b.coefficient * 10 ^ (-shift).toNat * 10 ^ c.prec < a.coefficient * 10 ^ shift.toNat := by
  have hda : 1 ≤ digits a.coefficient := by simp [digits]
  have hexp : digits b.coefficient + (-shift).toNat + c.prec = digits a.coefficient - 1 + shift.toNat := by omega
  calc b.coefficient * 10 ^ (-shift).toNat * 10 ^ c.prec
      < 10 ^ digits b.coefficient * 10 ^ (-shift).toNat * 10 ^ c.prec := by
        have := lt_digits b.coefficient
        gcongr
    _ = 10 ^ (digits a.coefficient - 1) * 10 ^ shift.toNat := by rw [← pow_add, ← pow_add, ← pow_add, hexp]
    _ ≤ a.coefficient * 10 ^ shift.toNat := Nat.mul_le_mul_right _ (le_pow_digits ha)

lemma value_eq_sign (d : Decimal) :
    d.value = (if d.negative then -1 else 1) * (d.coefficient * (10 : ℚ) ^ d.exponent) := by
  cases hd : d.negative <;> simp [value, signed, hd]

lemma zpow_toNat (k : ℤ) : (10 : ℚ) ^ k * (10 : ℚ) ^ (-k).toNat = (10 : ℚ) ^ k.toNat := by
  rw [← zpow_natCast, ← zpow_natCast, ← zpow_add₀ (by decide)]
  congr 1
  omega

section Quotient

variable {shift : ℤ} {num den : ℕ} (hnum : num = a.coefficient * 10 ^ shift.toNat)
    (hden : den = b.coefficient * 10 ^ (-shift).toNat)
include hnum hden

lemma abs_quotient : (num : ℚ) * (10 : ℚ) ^ (a.exponent - b.exponent - shift) *
    (b.coefficient * (10 : ℚ) ^ b.exponent) = den * (a.coefficient * (10 : ℚ) ^ a.exponent) := by
  have hsplit : (10 : ℚ) ^ (a.exponent - b.exponent - shift) * (10 : ℚ) ^ b.exponent * (10 : ℚ) ^ shift =
      (10 : ℚ) ^ a.exponent := by
    rw [← zpow_add₀ (by decide), ← zpow_add₀ (by decide)]
    congr 1
    ring
  rw [hnum, hden, ← hsplit]
  push_cast
  rw [← zpow_toNat shift]
  ring

lemma mod_eq_zero (hb : b.coefficient ≠ 0) (ha : a.coefficient ≠ 0)
    (hs : shift = digits b.coefficient - digits a.coefficient + c.prec + 1)
    (h : c.Representable (a.value / b.value)) : num % den = 0 := by
  obtain ⟨n, e, hv, hn, -⟩ := h
  have hbpos : (0 : ℚ) < b.coefficient * (10 : ℚ) ^ b.exponent :=
    mul_pos (by exact_mod_cast Nat.pos_of_ne_zero hb) (zpow_pos (by decide) _)
  have hdpos : 0 < den := by rw [hden]; positivity
  have habs : a.coefficient * (10 : ℚ) ^ a.exponent =
      n.natAbs * (10 : ℚ) ^ e * (b.coefficient * (10 : ℚ) ^ b.exponent) := by
    have hquot := congrArg abs hv
    rw [abs_div, abs_value, abs_value, abs_mul, abs_of_pos (zpow_pos (by decide : (0 : ℚ) < 10) e)] at hquot
    rw [Nat.cast_natAbs, Int.cast_abs, ← hquot, div_mul_cancel₀ _ hbpos.ne']
  have hmain : (num : ℚ) * (10 : ℚ) ^ (a.exponent - b.exponent - shift) = den * n.natAbs * (10 : ℚ) ^ e := by
    apply mul_right_cancel₀ hbpos.ne'
    rw [abs_quotient hnum hden, habs]
    ring
  have hlarge : (den : ℚ) * (10 : ℚ) ^ (c.prec : ℤ) < num := by
    have hlt := scaled_operands (b := b) ha hs
    rw [← hnum, ← hden] at hlt
    exact_mod_cast hlt
  have hlt : a.exponent - b.exponent - shift < e := by
    by_contra hle
    have hsmall : (n.natAbs : ℚ) < (10 : ℚ) ^ (c.prec : ℤ) := by exact_mod_cast hn
    have hd : (0 : ℚ) < den := by exact_mod_cast hdpos
    have hup : (den : ℚ) * n.natAbs * (10 : ℚ) ^ e <
        num * (10 : ℚ) ^ (a.exponent - b.exponent - shift) := by
      calc (den : ℚ) * n.natAbs * (10 : ℚ) ^ e
          ≤ den * (10 : ℚ) ^ (c.prec : ℤ) * (10 : ℚ) ^ e :=
            mul_le_mul_of_nonneg_right (mul_le_mul_of_nonneg_left hsmall.le hd.le) (zpow_nonneg (by decide) _)
        _ < num * (10 : ℚ) ^ e := mul_lt_mul_of_pos_right hlarge (zpow_pos (by decide) _)
        _ ≤ num * (10 : ℚ) ^ (a.exponent - b.exponent - shift) :=
            mul_le_mul_of_nonneg_left (zpow_le_zpow_right₀ (by decide) (not_lt.mp hle)) (Nat.cast_nonneg _)
    exact absurd hmain hup.ne'
  obtain ⟨m, hm⟩ : ∃ m : ℕ, e = a.exponent - b.exponent - shift + m := ⟨(e - (a.exponent - b.exponent - shift)).toNat, by omega⟩
  have hne : (10 : ℚ) ^ (a.exponent - b.exponent - shift) ≠ 0 := zpow_ne_zero _ (by decide)
  have hcast : (num : ℚ) = den * (n.natAbs * (10 : ℚ) ^ m) := by
    apply mul_right_cancel₀ hne
    rw [hmain, hm, zpow_add₀ (by decide), zpow_natCast]
    ring
  have hnat : num = den * (n.natAbs * 10 ^ m) := by exact_mod_cast hcast
  rw [hnat]
  exact Nat.mul_mod_right _ _

end Quotient

lemma quotient_value (hb : b.coefficient ≠ 0) (h : c.Representable (a.value / b.value)) :
    (c.quotient a b).value = a.value / b.value := by
  have hbpos : (0 : ℚ) < b.coefficient * (10 : ℚ) ^ b.exponent :=
    mul_pos (by exact_mod_cast Nat.pos_of_ne_zero hb) (zpow_pos (by decide) _)
  unfold quotient
  extract_lets negative shift num den e t
  split_ifs with ha hm
  · have hv : a.value = 0 := by simp [value, ha, signed]
    rw [hv, zero_div]
    simp [value, signed]
  · have hnum : num = den * (num / den) := (Nat.mul_div_cancel' (Nat.dvd_of_mod_eq_zero hm)).symm
    have hdpos : (den : ℚ) ≠ 0 := by
      have hd : 0 < den := by positivity
      exact_mod_cast hd.ne'
    have habs : (num : ℚ) * (10 : ℚ) ^ e * (b.coefficient * (10 : ℚ) ^ b.exponent) =
        den * (a.coefficient * (10 : ℚ) ^ a.exponent) := abs_quotient rfl rfl
    have hcast : (num : ℚ) = den * (num / den : ℕ) := by exact_mod_cast hnum
    have hquot : ((num / den : ℕ) : ℚ) * (10 : ℚ) ^ e =
        a.coefficient * (10 : ℚ) ^ a.exponent / (b.coefficient * (10 : ℚ) ^ b.exponent) := by
      rw [eq_div_iff hbpos.ne']
      apply mul_left_cancel₀ hdpos
      rw [← habs, hcast]
      ring
    rw [value_trim, value_eq_sign, value_eq_sign a, value_eq_sign b]
    change (if (a.negative != b.negative) = true then (-1 : ℚ) else 1) * (((num / den : ℕ) : ℚ) * (10 : ℚ) ^ e) = _
    rw [hquot]
    cases a.negative <;> cases b.negative <;> simp [div_neg, neg_div]
  all_goals exact absurd (mod_eq_zero rfl rfl hb ha rfl h) hm

lemma divide_exact_iff (hb : b.coefficient ≠ 0) (h : c.divide a b = some r) :
    r.value = a.value / b.value ↔ c.Representable (a.value / b.value) := by
  refine ⟨fun hv => hv ▸ representable_round h, fun hr => ?_⟩
  have hq := quotient_value hb hr
  rw [← hq] at hr ⊢
  exact (round_exact_iff h).mpr hr

end Context

end IbkrPlatform.Library
