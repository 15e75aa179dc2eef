import Mathlib.Algebra.Order.Group.Int
import Mathlib.Algebra.Group.Int.Even
import IbkrPlatform.Library.DecimalText

/-! Decimal numbers brought to a given exponent, and their form without trailing zeros. -/

namespace IbkrPlatform.Library.Context

open Decimal

def NearestEven (x : ℚ) (n : ℤ) : Prop := |x - n| ≤ 1 / 2 ∧ (|x - n| = 1 / 2 → Even n)

def adjusted (d : Decimal) : ℤ := d.exponent + digits d.coefficient - 1

def rescaled (d : Decimal) (e : ℤ) : ℕ :=
  if e ≤ d.exponent then d.coefficient * 10 ^ (d.exponent - e).toNat
  else halfEven d.coefficient (10 ^ (e - d.exponent).toNat)

def Normal (d : Decimal) : Prop := d = zero ∨ d.coefficient % 10 ≠ 0

section

variable (c : Context)

/-- `quantize`; `none` is an `InvalidOperation`. -/
def quantize (d : Decimal) (e : ℤ) : Option Decimal :=
  if e < c.etiny ∨ c.emax < e then none
  else if d.coefficient = 0 then some ⟨d.negative, 0, e⟩
  else if c.emax < adjusted d ∨ c.prec < adjusted d - e + 1 then none
  else
    let r : Decimal := ⟨d.negative, rescaled d e, e⟩
    if c.emax < adjusted r ∨ c.prec < digits r.coefficient then none else some r

def normalize (d : Decimal) : Option Decimal :=
  (c.round d).map fun r =>
    if r.coefficient = 0 then ⟨r.negative, 0, 0⟩
    else
      let t := trim (min (digits r.coefficient) (c.emax - r.exponent).toNat) r.coefficient r.exponent
      ⟨r.negative, t.1, t.2⟩

end

variable {c : Context} {d q r : Decimal} {e : ℤ}

lemma NearestEven.neg {x : ℚ} {n : ℤ} (h : NearestEven x n) : NearestEven (-x) (-n) := by
  have habs : |-x - ((-n : ℤ) : ℚ)| = |x - n| := by
    rw [← abs_neg]
    congr 1
    push_cast
    ring
  unfold NearestEven
  rw [habs, even_neg]
  exact h

lemma NearestEven.unique {x : ℚ} {n m : ℤ} (hn : NearestEven x n) (hm : NearestEven x m) : n = m := by
  obtain ⟨hn, hneven⟩ := hn
  obtain ⟨hm, hmeven⟩ := hm
  rw [abs_le] at hn hm
  have hle : (n : ℚ) ≤ (m + 1 : ℤ) ∧ (m : ℚ) ≤ (n + 1 : ℤ) := by
    push_cast
    constructor <;> linarith
  have hclose : n ≤ m + 1 ∧ m ≤ n + 1 := ⟨by exact_mod_cast hle.1, by exact_mod_cast hle.2⟩
  -- Integers that differ by one are both nearest only to the point halfway between them, and one of them is odd.
  rcases lt_trichotomy n m with h | h | h
  · obtain rfl : m = n + 1 := by omega
    push_cast at hm hmeven
    have hhalf : x - n = 1 / 2 := by linarith
    have heven := hneven (by rw [hhalf]; norm_num)
    have hodd := hmeven (by rw [show x - (n + 1) = -(1 / 2) by linarith]; norm_num)
    exact absurd hodd (by simpa [Int.even_add_one] using heven)
  · exact h
  · obtain rfl : n = m + 1 := by omega
    push_cast at hn hneven
    have hhalf : x - m = 1 / 2 := by linarith
    have heven := hmeven (by rw [hhalf]; norm_num)
    have hodd := hneven (by rw [show x - (m + 1) = -(1 / 2) by linarith]; norm_num)
    exact absurd hodd (by simpa [Int.even_add_one] using heven)

lemma nearestEven_self (n : ℤ) : NearestEven n n := by
  constructor <;> norm_num

lemma nearestEven_halfEven (n : ℕ) {unit : ℕ} (hu : 0 < unit) : NearestEven ((n : ℚ) / unit) (halfEven n unit : ℕ) := by
  have hpos : (0 : ℚ) < unit := by exact_mod_cast hu
  have hsplit : (n : ℚ) / unit = (n / unit : ℕ) + (n % unit : ℕ) / unit := by
    rw [div_eq_iff hpos.ne', add_mul, div_mul_cancel₀ _ hpos.ne']
    exact_mod_cast (Nat.div_add_mod' n unit).symm
  have hmod : (0 : ℚ) ≤ (n % unit : ℕ) / unit := by positivity
  unfold halfEven
  split_ifs with hr
  · have hdist : |(n : ℚ) / unit - ((n / unit : ℕ) : ℤ)| = (n % unit : ℕ) / unit := by
      rw [hsplit, Int.cast_natCast, add_sub_cancel_left, abs_of_nonneg hmod]
    unfold NearestEven
    rw [hdist, div_le_div_iff₀ hpos (by decide), div_eq_div_iff hpos.ne' (by decide)]
    refine ⟨by norm_cast; omega, fun htie => ?_⟩
    have htie' : n % unit * 2 = 1 * unit := by exact_mod_cast htie
    rw [Int.even_coe_nat, Nat.even_iff]
    omega
  · have hlt : n % unit < unit := Nat.mod_lt _ hu
    have hdist : |(n : ℚ) / unit - ((n / unit + 1 : ℕ) : ℤ)| = (unit - (n % unit : ℕ)) / unit := by
      have hneg : (n : ℚ) / unit - ((n / unit + 1 : ℕ) : ℤ) = -((unit - (n % unit : ℕ)) / unit) := by
        rw [hsplit, Int.cast_natCast, Nat.cast_add_one]
        field_simp
        ring
      have hle : ((n % unit : ℕ) : ℚ) ≤ unit := by exact_mod_cast hlt.le
      rw [hneg, abs_neg, abs_of_nonneg (div_nonneg (sub_nonneg.mpr hle) hpos.le)]
    unfold NearestEven
    rw [hdist, div_le_div_iff₀ hpos (by decide), div_eq_div_iff hpos.ne' (by decide), ← Nat.cast_sub hlt.le]
    refine ⟨by norm_cast; omega, fun htie => ?_⟩
    have htie' : (unit - n % unit) * 2 = 1 * unit := by exact_mod_cast htie
    rw [Int.even_coe_nat, Nat.even_iff]
    omega

lemma nearestEven_rescaled (d : Decimal) (e : ℤ) :
    NearestEven (d.value / (10 : ℚ) ^ e) (signed d.negative (rescaled d e)) := by
  have hpos : NearestEven (d.coefficient * (10 : ℚ) ^ (d.exponent - e)) (rescaled d e : ℕ) := by
    unfold rescaled
    split_ifs with he
    · have hexact : d.coefficient * (10 : ℚ) ^ (d.exponent - e) =
          ((d.coefficient * 10 ^ (d.exponent - e).toNat : ℕ) : ℤ) := by
        have hk : ((d.exponent - e).toNat : ℤ) = d.exponent - e := Int.toNat_of_nonneg (by omega)
        push_cast
        rw [← zpow_natCast, hk]
      rw [hexact]
      exact nearestEven_self _
    · have hk : ((e - d.exponent).toNat : ℤ) = e - d.exponent := Int.toNat_of_nonneg (by omega)
      have hdiv : d.coefficient * (10 : ℚ) ^ (d.exponent - e) =
          (d.coefficient : ℚ) / (10 ^ (e - d.exponent).toNat : ℕ) := by
        push_cast
        rw [← zpow_natCast, hk, div_eq_mul_inv, ← zpow_neg, neg_sub]
      rw [hdiv]
      exact nearestEven_halfEven _ (by positivity)
  have hvalue : d.value / (10 : ℚ) ^ e =
      (if d.negative then -1 else 1) * (d.coefficient * (10 : ℚ) ^ (d.exponent - e)) := by
    rw [value_eq_sign, zpow_sub₀ (by decide)]
    ring
  rw [hvalue]
  cases d.negative
  · simpa [signed] using hpos
  · simpa [signed] using hpos.neg

lemma quantize_spec (h : c.quantize d e = some q) :
    q = ⟨d.negative, q.coefficient, e⟩ ∧ NearestEven (d.value / (10 : ℚ) ^ e) (signed d.negative q.coefficient) ∧
      digits q.coefficient ≤ c.prec ∧ c.etiny ≤ e ∧ e ≤ c.emax ∧ adjusted q ≤ c.emax := by
  unfold quantize at h
  extract_lets s at h
  split_ifs at h with he hz ha hs
  · cases h
    have hp := c.prec_pos
    have hzero : d.value / (10 : ℚ) ^ e = ((0 : ℤ) : ℚ) := by simp [value, hz, signed]
    have hsigned : signed d.negative 0 = 0 := by cases d.negative <;> rfl
    have hdigits : digits 0 = 1 := rfl
    refine ⟨rfl, ?_, by simpa [hdigits], by omega, by omega, by simp [adjusted, hdigits]; omega⟩
    change NearestEven _ (signed d.negative 0)
    rw [hsigned, hzero]
    exact nearestEven_self 0
  · obtain rfl : s = q := Option.some.inj h
    exact ⟨rfl, nearestEven_rescaled d e, by omega, by omega, by omega, by omega⟩

lemma round_of_fits (hp : digits d.coefficient ≤ c.prec) (htiny : c.etiny ≤ d.exponent) (hemax : d.exponent ≤ c.emax)
    (ha : adjusted d ≤ c.emax) : c.round d = some d := by
  have hgrain : c.grain d ≤ d.exponent := max_le htiny (by omega)
  have hshort : c.shorten d = d := by simp [shorten, hgrain]
  unfold adjusted at ha
  unfold round
  split_ifs with hz
  · rw [min_eq_right hemax, max_eq_right htiny]
  · simp only [hshort]
    rw [if_neg (by omega)]

lemma trim_stops {steps n : ℕ} (hn : n ≠ 0) (hsteps : digits n ≤ steps) (e : ℤ) : (trim steps n e).1 % 10 ≠ 0 := by
  induction steps generalizing n e with
  | zero => simp [digits] at hsteps
  | succ steps ih =>
    rw [trim]
    split_ifs with hten
    · have hdiv : n / 10 ≠ 0 := by omega
      have hlog : Nat.log 10 (n / 10) = Nat.log 10 n - 1 := Nat.log_div_base 10 n
      have hone : 1 ≤ Nat.log 10 n := Nat.log_pos (by decide) (by omega)
      refine ih hdiv ?_ _
      unfold digits at *
      omega
    · exact hten

lemma le_exponent_trim (steps n : ℕ) (e : ℤ) : e ≤ (trim steps n e).2 := by
  induction steps generalizing n e with
  | zero => exact le_rfl
  | succ steps ih =>
    rw [trim]
    split_ifs
    · have := ih (n / 10) (e + 1)
      omega
    · exact le_rfl

lemma normalize_spec (hround : c.round d = some d) (hroom : d.exponent + digits d.coefficient ≤ c.emax)
    (h : c.normalize d = some r) :
    r.value = d.value ∧ (r.coefficient = 0 ∨ r.coefficient % 10 ≠ 0 ∧ d.exponent ≤ r.exponent) := by
  rw [normalize, hround, Option.map_some] at h
  split_ifs at h with hz
  · cases h
    exact ⟨by simp [value, hz, signed], .inl rfl⟩
  · cases h
    exact ⟨value_trim _ _ _ _, .inr ⟨trim_stops hz (by omega) _, le_exponent_trim _ _ _⟩⟩

lemma exponent_le {a b : Decimal} (hb : b.coefficient % 10 ≠ 0)
    (h : (a.coefficient : ℚ) * (10 : ℚ) ^ a.exponent = b.coefficient * (10 : ℚ) ^ b.exponent) : a.exponent ≤ b.exponent := by
  by_contra hlt
  obtain ⟨k, hk⟩ : ∃ k : ℕ, a.exponent = b.exponent + (k + 1 : ℕ) := ⟨(a.exponent - b.exponent - 1).toNat, by omega⟩
  have hcast : (a.coefficient : ℚ) * 10 ^ (k + 1) = b.coefficient := by
    apply mul_right_cancel₀ (zpow_ne_zero b.exponent (by decide : (10 : ℚ) ≠ 0))
    rw [← h, hk, zpow_add₀ (by decide), zpow_natCast]
    ring
  have hnat : a.coefficient * 10 ^ (k + 1) = b.coefficient := by exact_mod_cast hcast
  rw [← hnat, pow_succ, ← mul_assoc, Nat.mul_mod_left] at hb
  exact hb rfl

lemma Normal.eq_of_value {a b : Decimal} (ha : Normal a) (hb : Normal b) (h : a.value = b.value) : a = b := by
  have hne : ∀ {d : Decimal}, d.coefficient % 10 ≠ 0 → d.value ≠ 0 := by
    intro d hd hzero
    have habs := abs_value d
    rw [hzero, abs_zero, eq_comm, mul_eq_zero] at habs
    have hcoefficient : d.coefficient = 0 := by exact_mod_cast habs.resolve_right (zpow_ne_zero _ (by decide))
    rw [hcoefficient] at hd
    exact hd rfl
  rcases ha with rfl | ha
  · rcases hb with rfl | hb
    · rfl
    · exact absurd (h.symm.trans value_zero) (hne hb)
  · rcases hb with rfl | hb
    · exact absurd (h.trans value_zero) (hne ha)
    have habs : (a.coefficient : ℚ) * (10 : ℚ) ^ a.exponent = b.coefficient * (10 : ℚ) ^ b.exponent := by
      rw [← abs_value, ← abs_value, h]
    have hexponent : a.exponent = b.exponent := le_antisymm (exponent_le hb habs) (exponent_le ha habs.symm)
    have hcoefficient : a.coefficient = b.coefficient := by
      rw [hexponent] at habs
      exact_mod_cast mul_right_cancel₀ (zpow_ne_zero b.exponent (by decide)) habs
    have hnegative : a.negative = b.negative := by
      rw [value_eq_sign, value_eq_sign, habs] at h
      have hb0 := hne hb
      rw [value_eq_sign] at hb0
      have hsign := mul_right_cancel₀ (right_ne_zero_of_mul hb0) h
      cases hna : a.negative <;> cases hnb : b.negative
      · rfl
      · norm_num [hna, hnb] at hsign
      · norm_num [hna, hnb] at hsign
      · rfl
    cases a
    cases b
    exact Decimal.mk.injEq .. ▸ ⟨hnegative, hcoefficient, hexponent⟩

end IbkrPlatform.Library.Context
