import Mathlib.Tactic.IntervalCases
import IbkrPlatform.Library.Decimal
import IbkrPlatform.Library.Text

/-! The texts of decimal numbers: what a reader accepts, and what a writer puts out. -/

namespace IbkrPlatform.Library.Decimal

/-- The parts of a decimal text without exponent, as in `-?(0|[1-9][0-9]*)(\.[0-9]+)?`. -/
structure Plain where
  negative : Bool
  whole : List Char
  fraction : List Char
  whole_ne : whole ≠ []
  whole_digit : whole.all Char.isDigit = true
  whole_lead : whole.head? = some '0' → whole.length = 1
  fraction_digit : fraction.all Char.isDigit = true

namespace Plain

def text (p : Plain) : List Char :=
  (if p.negative then ['-'] else []) ++ p.whole ++ (if p.fraction = [] then [] else '.' :: p.fraction)

def decimal (p : Plain) : Decimal := ⟨p.negative, Nat.ofDigitChars 10 (p.whole ++ p.fraction) 0, -p.fraction.length⟩

end Plain

def unsigned (cs : List Char) : List Char := if cs.head? = some '-' then cs.tail else cs

def fractionOf : List Char → Option (List Char)
  | [] => some []
  | '.' :: c :: cs => some (c :: cs)
  | _ => none

/-- The full match of the expression. -/
def plain (cs : List Char) : Option Plain :=
  let whole := (unsigned cs).takeWhile Char.isDigit
  match fractionOf ((unsigned cs).dropWhile Char.isDigit) with
  | none => none
  | some fraction =>
    if h : whole ≠ [] ∧ whole.all Char.isDigit = true ∧ (whole.head? = some '0' → whole.length = 1) ∧
        fraction.all Char.isDigit = true then
      some ⟨cs.head? = some '-', whole, fraction, h.1, h.2.1, h.2.2.1, h.2.2.2⟩
    else none

lemma plain_text {cs : List Char} {p : Plain} (h : plain cs = some p) : p.text = cs := by
  unfold plain at h
  extract_lets whole at h
  split at h
  · cases h
  rename_i fraction hf
  split_ifs at h with hw
  have hbody : whole ++ (if fraction = [] then [] else '.' :: fraction) = unsigned cs := by
    conv_rhs => rw [← List.takeWhile_append_dropWhile (p := Char.isDigit) (l := unsigned cs)]
    congr 1
    unfold fractionOf at hf
    split at hf
    · rename_i hnil
      simp [← Option.some.inj hf, hnil]
    · rename_i hcons
      simp [← Option.some.inj hf, hcons]
    · cases hf
  rw [← Option.some.inj h, Plain.text, List.append_assoc, hbody, unsigned]
  by_cases hneg : cs.head? = some '-'
  · obtain ⟨rest, rfl⟩ := List.head?_eq_some_iff.mp hneg
    rfl
  · simp [hneg]

namespace Plain

def tail (p : Plain) : List Char := if p.fraction = [] then [] else '.' :: p.fraction

lemma head_digit (p : Plain) : ∃ d ds, p.whole = d :: ds ∧ d.isDigit = true := by
  obtain ⟨d, ds, hcons⟩ := List.exists_cons_of_ne_nil p.whole_ne
  exact ⟨d, ds, hcons, List.all_eq_true.mp p.whole_digit d (by simp [hcons])⟩

lemma head_text (p : Plain) : p.text.head? = some '-' ↔ p.negative = true := by
  obtain ⟨d, ds, hcons, hd⟩ := p.head_digit
  have hne : d ≠ '-' := by
    rintro rfl
    exact absurd hd (by decide)
  cases hn : p.negative <;> simp [text, hn, hcons, hne]

lemma unsigned_text (p : Plain) : unsigned p.text = p.whole ++ p.tail := by
  have hhead := p.head_text
  rw [unsigned]
  cases hn : p.negative
  · rw [if_neg (by simp [hhead, hn])]
    simp [text, hn, tail]
  · rw [if_pos (by simp [hhead, hn])]
    simp [text, hn, tail]

end Plain

lemma plain_of_text (p : Plain) : plain p.text = some p := by
  have hdigit : ∀ c ∈ p.whole, c.isDigit = true := List.all_eq_true.mp p.whole_digit
  have hhead := p.head_text
  have hbody := p.unsigned_text
  unfold Plain.tail at hbody
  have htail : ∀ c, (if p.fraction = [] then [] else '.' :: p.fraction).head? = some c → c.isDigit = false := by
    intro c hc
    split_ifs at hc with hf
    · cases hc
    · rw [← Option.some.inj hc]
      decide
  have htake : (unsigned p.text).takeWhile Char.isDigit = p.whole ∧
      (unsigned p.text).dropWhile Char.isDigit = if p.fraction = [] then [] else '.' :: p.fraction := by
    rw [hbody, List.takeWhile_append_of_pos hdigit, List.dropWhile_append_of_pos hdigit]
    cases hrest : (if p.fraction = [] then [] else '.' :: p.fraction) with
    | nil => simp
    | cons c cs =>
      have hc := htail c (by rw [hrest]; rfl)
      simp [hc]
  have hfraction : fractionOf (if p.fraction = [] then [] else '.' :: p.fraction) = some p.fraction := by
    split_ifs with hf
    · simp [fractionOf, hf]
    · obtain ⟨c, cs, hc⟩ := List.exists_cons_of_ne_nil hf
      simp [fractionOf, hc]
  unfold plain
  simp only [htake.1, htake.2, hfraction]
  rw [dif_pos ⟨p.whole_ne, p.whole_digit, p.whole_lead, p.fraction_digit⟩]
  have hsign : decide (p.text.head? = some '-') = p.negative := by
    rw [Bool.eq_iff_iff, decide_eq_true_iff, hhead]
  simp only [hsign]

section FixedPoint

def zfill (width : ℕ) (cs : List Char) : List Char := List.replicate (width - cs.length) '0' ++ cs

def padded (n scale : ℕ) : List Char := zfill (scale + 1) (Nat.toDigits 10 n)

def fixedText (negative : Bool) (n scale : ℕ) : List Char :=
  let digits := padded n scale
  (if negative then ['-'] else []) ++
    if scale = 0 then digits else digits.take (digits.length - scale) ++ '.' :: digits.drop (digits.length - scale)

lemma head_toDigits {n : ℕ} (hn : n ≠ 0) : (Nat.toDigits 10 n).head? ≠ some '0' := by
  induction n using Nat.strong_induction_on with
  | _ n ih =>
    rw [Nat.toDigits_eq_if (by decide)]
    split_ifs with hlt
    · interval_cases n <;> simp_all [Nat.digitChar]
    · have hrest := ih (n / 10) (by omega) (by omega)
      rwa [List.head?_append_of_ne_nil _ Nat.toDigits_ne_nil]

lemma padded_length (n scale : ℕ) : scale + 1 ≤ (padded n scale).length := by
  simp only [padded, zfill, List.length_append, List.length_replicate]
  omega

lemma padded_digit (n scale : ℕ) : ∀ c ∈ padded n scale, c.isDigit = true := by
  intro c hc
  rcases List.mem_append.mp hc with hc | hc
  · rw [List.eq_of_mem_replicate hc]
    rfl
  · exact Nat.isDigit_of_mem_toDigits (by decide) (by decide) hc

lemma padded_value (n scale : ℕ) : Nat.ofDigitChars 10 (padded n scale) 0 = n := by
  rw [padded, zfill, Nat.ofDigitChars_append, Nat.ofDigitChars_replicate_zero, Nat.mul_zero, Nat.ofDigitChars_ten_toDigits]

lemma padded_lead (n scale : ℕ) (h : ((padded n scale).take ((padded n scale).length - scale)).head? = some '0') :
    ((padded n scale).take ((padded n scale).length - scale)).length = 1 := by
  have hlen : (padded n scale).length = (scale + 1 - (Nat.toDigits 10 n).length) + (Nat.toDigits 10 n).length := by
    simp only [padded, zfill, List.length_append, List.length_replicate]
  rw [List.length_take]
  by_cases hshort : (Nat.toDigits 10 n).length ≤ scale + 1
  · omega
  · have hpad : padded n scale = Nat.toDigits 10 n := by
      rw [padded, zfill, Nat.sub_eq_zero_of_le (by omega)]
      rfl
    have hn : n ≠ 0 := by
      rintro rfl
      simp at hshort
    rw [hpad, List.head?_take, if_neg (by omega)] at h
    exact absurd h (head_toDigits hn)

def fixed (negative : Bool) (n scale : ℕ) : Plain where
  negative := negative
  whole := (padded n scale).take ((padded n scale).length - scale)
  fraction := (padded n scale).drop ((padded n scale).length - scale)
  whole_ne := by
    have hlen := padded_length n scale
    apply List.ne_nil_of_length_pos
    rw [List.length_take]
    omega
  whole_digit := List.all_eq_true.mpr fun c hc => padded_digit n scale c (List.mem_of_mem_take hc)
  whole_lead := padded_lead n scale
  fraction_digit := List.all_eq_true.mpr fun c hc => padded_digit n scale c (List.mem_of_mem_drop hc)

lemma fixed_fraction (negative : Bool) (n scale : ℕ) : (fixed negative n scale).fraction.length = scale := by
  have hlen := padded_length n scale
  simp only [fixed, List.length_drop]
  omega

lemma fixed_text (negative : Bool) (n scale : ℕ) : (fixed negative n scale).text = fixedText negative n scale := by
  have hlen := fixed_fraction negative n scale
  unfold Plain.text fixedText
  extract_lets digits
  by_cases hs : scale = 0
  · have hnil : (fixed negative n scale).fraction = [] := List.length_eq_zero_iff.mp (hlen.trans hs)
    have hwhole : (fixed negative n scale).whole = digits := by simp [fixed, hs, digits]
    rw [if_pos hnil, if_pos hs, hwhole, List.append_nil]
    rfl
  · have hne : (fixed negative n scale).fraction ≠ [] := fun hnil => hs (by rw [← hlen, hnil]; rfl)
    rw [if_neg hne, if_neg hs, List.append_assoc]
    rfl

lemma fixed_decimal (negative : Bool) (n scale : ℕ) : (fixed negative n scale).decimal = ⟨negative, n, -scale⟩ := by
  have hwhole : (fixed negative n scale).whole ++ (fixed negative n scale).fraction = padded n scale :=
    List.take_append_drop _ _
  rw [Plain.decimal, hwhole, padded_value, fixed_fraction]
  rfl

end FixedPoint

def format (d : Decimal) : List Char := fixedText d.negative (d.coefficient * 10 ^ d.exponent.toNat) (-d.exponent).toNat

lemma format_plain (d : Decimal) : ∃ p, plain (format d) = some p ∧ p.decimal.value = d.value := by
  refine ⟨fixed d.negative (d.coefficient * 10 ^ d.exponent.toNat) (-d.exponent).toNat, ?_, ?_⟩
  · rw [format, ← fixed_text]
    exact plain_of_text _
  · rw [fixed_decimal]
    refine Context.value_of_parts rfl ?_
    have hpow := Context.zpow_toNat d.exponent
    have hexp : (10 : ℚ) ^ (-((-d.exponent).toNat : ℤ)) * (10 : ℚ) ^ (-d.exponent).toNat = 1 := by
      rw [← zpow_natCast, ← zpow_add₀ (by decide), neg_add_cancel, zpow_zero]
    push_cast
    rw [← hpow]
    calc (d.coefficient : ℚ) * ((10 : ℚ) ^ d.exponent * (10 : ℚ) ^ (-d.exponent).toNat) *
          (10 : ℚ) ^ (-((-d.exponent).toNat : ℤ))
        = d.coefficient * (10 : ℚ) ^ d.exponent *
          ((10 : ℚ) ^ (-((-d.exponent).toNat : ℤ)) * (10 : ℚ) ^ (-d.exponent).toNat) := by ring
      _ = d.coefficient * (10 : ℚ) ^ d.exponent := by rw [hexp, mul_one]

section Reader

inductive Number
  | finite (d : Decimal)
  | special
deriving DecidableEq

def buildable (d : Decimal) : Bool :=
  -1999999999999999997 ≤ d.exponent ∧
    (if d.coefficient = 0 then d.exponent else d.exponent + digits d.coefficient - 1) ≤ 999999999999999999

def natural (cs : List Char) : Option ℕ :=
  if cs = [] then none else (cs.mapM Text.digit).map fun ds => ds.foldl (fun n d => 10 * n + d) 0

def signless (cs : List Char) : List Char := if cs.head? ∈ [some '-', some '+'] then cs.tail else cs

def exponentOf (cs : List Char) : Option ℤ :=
  match cs with
  | [] => some 0
  | _ :: rest => (natural (signless rest)).map fun n => signed (rest.head? = some '-') n

def isSpecial (body : List Char) : Bool :=
  let name := Text.lower body
  let payload (cs : List Char) : Bool := cs.all fun c => (Text.digit c).isSome
  name = "inf".toList ∨ name = "infinity".toList ∨ name.take 3 = "nan".toList ∧ payload (name.drop 3) ∨
    name.take 4 = "snan".toList ∧ payload (name.drop 4)

/-- The constructor `Decimal(text)`; `none` is an `InvalidOperation`. -/
def read (text : List Char) : Option Number :=
  let cs := (Text.stripChars text).filter (· ≠ '_')
  let body := signless cs
  if isSpecial body then some .special
  else
    let mantissa := body.takeWhile fun c => c ≠ 'e' ∧ c ≠ 'E'
    let whole := mantissa.takeWhile (· ≠ '.')
    let fraction := (mantissa.dropWhile (· ≠ '.')).tail
    match natural (whole ++ fraction), exponentOf (body.dropWhile fun c => c ≠ 'e' ∧ c ≠ 'E') with
    | some n, some e =>
      let d : Decimal := ⟨cs.head? = some '-', n, e - fraction.length⟩
      if buildable d then some (.finite d) else none
    | _, _ => none

def readFinite (text : List Char) : Option Decimal :=
  match read text with
  | some (.finite d) => some d
  | _ => none

lemma toNat_of_isDigit {c : Char} (h : c.isDigit = true) : 48 ≤ c.toNat ∧ c.toNat ≤ 57 := by
  rw [Char.isDigit, Bool.and_eq_true, decide_eq_true_iff, decide_eq_true_iff] at h
  exact h

lemma digit_of_isDigit {c : Char} (h : c.isDigit = true) : Text.digit c = some (c.toNat - 48) := by
  have hrange := toNat_of_isDigit h
  have hfind : Text.decimalZeros.find? (fun n => n ≤ c.toNat ∧ c.toNat < n + 10) = some 48 := by
    unfold Text.decimalZeros
    rw [List.find?_cons_of_pos (by simp; omega)]
  rw [Text.digit, hfind]
  rfl

lemma natural_of_digits {cs : List Char} (hne : cs ≠ []) (h : ∀ c ∈ cs, c.isDigit = true) :
    natural cs = some (Nat.ofDigitChars 10 cs 0) := by
  have hmap : cs.mapM Text.digit = some (cs.map fun c => c.toNat - 48) := by
    clear hne
    induction cs with
    | nil => rfl
    | cons c cs ih =>
      rw [List.mapM_cons, digit_of_isDigit (h c (by simp)), ih fun d hd => h d (List.mem_cons_of_mem c hd)]
      rfl
  rw [natural, if_neg hne, hmap, Option.map_some, List.foldl_map]
  rfl

lemma plain_char {p : Plain} {c : Char} (hc : c ∈ p.text) :
    Text.isSpace c = false ∧ c ≠ '_' ∧ c ≠ 'e' ∧ c ≠ 'E' ∧ c ≠ '+' := by
  have hdigit : c.isDigit = true → Text.isSpace c = false ∧ c ≠ '_' ∧ c ≠ 'e' ∧ c ≠ 'E' ∧ c ≠ '+' := by
    intro h
    have hrange := toNat_of_isDigit h
    refine ⟨by simp [Text.isSpace]; omega, ?_, ?_, ?_, ?_⟩
    all_goals
      rintro rfl
      revert hrange
      decide
  unfold Plain.text at hc
  rcases List.mem_append.mp hc with hc | hc
  · rcases List.mem_append.mp hc with hc | hc
    · split_ifs at hc
      · rw [List.mem_singleton.mp hc]
        decide
      · cases hc
    · exact hdigit (List.all_eq_true.mp p.whole_digit c hc)
  · split_ifs at hc
    · cases hc
    · rcases List.mem_cons.mp hc with rfl | hc
      · decide
      · exact hdigit (List.all_eq_true.mp p.fraction_digit c hc)

lemma isSpecial_digit {d : Char} (hd : d.isDigit = true) (ds : List Char) : isSpecial (d :: ds) = false := by
  have hrange := toNat_of_isDigit hd
  have hlower : Text.lowerChar d = d := by
    rw [Text.lowerChar, if_neg (by omega)]
  have hi : d ≠ 'i' := by rintro rfl; revert hrange; decide
  have hn : d ≠ 'n' := by rintro rfl; revert hrange; decide
  have hs : d ≠ 's' := by rintro rfl; revert hrange; decide
  simp [isSpecial, Text.lower, hlower, hi, hn, hs]

lemma ofDigitChars_lt {cs : List Char} (h : ∀ c ∈ cs, c.isDigit = true) : Nat.ofDigitChars 10 cs 0 < 10 ^ cs.length := by
  induction cs using List.reverseRecOn with
  | nil => decide
  | append_singleton cs c ih =>
    have hc := toNat_of_isDigit (h c (by simp))
    have hcs := ih fun d hd => h d (by simp [hd])
    rw [Nat.ofDigitChars_append, Nat.ofDigitChars_cons, Nat.ofDigitChars_nil, List.length_append, List.length_singleton,
      pow_succ]
    have hdigit : c.toNat - '0'.toNat < 10 := by
      change c.toNat - 48 < 10
      omega
    omega

lemma Plain.digit (p : Plain) : ∀ c ∈ p.whole ++ p.fraction, c.isDigit = true := by
  intro c hc
  rcases List.mem_append.mp hc with hc | hc
  · exact List.all_eq_true.mp p.whole_digit c hc
  · exact List.all_eq_true.mp p.fraction_digit c hc

lemma Plain.coefficient_lt (p : Plain) : p.decimal.coefficient < 10 ^ (p.whole.length + p.fraction.length) := by
  rw [← List.length_append]
  exact ofDigitChars_lt p.digit

lemma Plain.after_point (p : Plain) :
    (p.whole ++ p.tail).takeWhile (· ≠ '.') = p.whole ∧ ((p.whole ++ p.tail).dropWhile (· ≠ '.')).tail = p.fraction := by
  have hpoint : ∀ c ∈ p.whole, decide (c ≠ '.') = true := by
    intro c hc
    have hdigit := List.all_eq_true.mp p.whole_digit c hc
    refine decide_eq_true ?_
    rintro rfl
    exact absurd hdigit (by decide)
  rw [List.takeWhile_append_of_pos hpoint, List.dropWhile_append_of_pos hpoint]
  unfold Plain.tail
  split_ifs with hf
  · simp [hf]
  · simp

lemma Plain.fraction_of_text (p : Plain) : (p.text.dropWhile (· ≠ '.')).tail = p.fraction := by
  have hbody := p.after_point.2
  have htext : p.text = (if p.negative then ['-'] else []) ++ (p.whole ++ p.tail) := List.append_assoc _ _ _
  rw [htext]
  cases p.negative
  · exact hbody
  · simpa using hbody

lemma Plain.text_length (p : Plain) : p.text.length =
    (if p.negative then 1 else 0) + p.whole.length + if p.fraction = [] then 0 else p.fraction.length + 1 := by
  rw [Plain.text, List.length_append, List.length_append]
  congr 1
  · congr 1
    split_ifs <;> rfl
  · split_ifs <;> rfl

lemma read_text (p : Plain) : read p.text = if buildable p.decimal then some (.finite p.decimal) else none := by
  obtain ⟨d, ds, hcons, hd⟩ := p.head_digit
  have hfilter : (Text.stripChars p.text).filter (· ≠ '_') = p.text := by
    rw [Text.stripChars_of_nonspace fun c hc => (plain_char hc).1, List.filter_eq_self]
    exact fun c hc => by simpa using (plain_char hc).2.1
  have hsignless : signless p.text = p.whole ++ p.tail := by
    have hplus : p.text.head? ≠ some '+' := fun hp => (plain_char (List.mem_of_mem_head? hp)).2.2.2.2 rfl
    rw [← p.unsigned_text, signless, unsigned]
    simp [hplus]
  have hchars : ∀ c ∈ p.whole ++ p.tail, c ≠ 'e' ∧ c ≠ 'E' := by
    intro c hc
    have hmem : c ∈ p.text := by
      rw [Plain.text, List.append_assoc]
      exact List.mem_append_right _ hc
    exact ⟨(plain_char hmem).2.2.1, (plain_char hmem).2.2.2.1⟩
  have htake : (p.whole ++ p.tail).takeWhile (fun c => c ≠ 'e' ∧ c ≠ 'E') = p.whole ++ p.tail :=
    List.takeWhile_eq_self_iff.mpr fun c hc => decide_eq_true (hchars c hc)
  have hdrop : (p.whole ++ p.tail).dropWhile (fun c => c ≠ 'e' ∧ c ≠ 'E') = [] :=
    List.dropWhile_eq_nil_iff.mpr fun c hc => decide_eq_true (hchars c hc)
  have hnatural : natural (p.whole ++ p.fraction) = some (Nat.ofDigitChars 10 (p.whole ++ p.fraction) 0) :=
    natural_of_digits (by simp [p.whole_ne]) p.digit
  have hspecial : isSpecial (p.whole ++ p.tail) = false := by
    rw [hcons]
    exact isSpecial_digit hd _
  have hsign : decide (p.text.head? = some '-') = p.negative := by
    rw [Bool.eq_iff_iff, decide_eq_true_iff, p.head_text]
  unfold read
  simp only [hfilter, hsignless, hspecial, htake, hdrop, p.after_point.1, p.after_point.2, hnatural, exponentOf, hsign,
    zero_sub]
  rfl

lemma read_plain {p : Plain} {x : Number} (h : read p.text = some x) : x = .finite p.decimal := by
  rw [read_text] at h
  split_ifs at h
  exact (Option.some.inj h).symm

lemma readFinite_plain {text : List Char} {p : Plain} {d : Decimal} (hp : plain text = some p) (hd : readFinite text = some d) :
    d = p.decimal := by
  unfold readFinite at hd
  rw [← plain_text hp] at hd
  split at hd
  · rename_i d' hr
    rw [← Option.some.inj hd]
    exact Number.finite.inj (read_plain hr)
  · cases hd

lemma readFinite_format {d d' : Decimal} (h : readFinite (format d) = some d') : d'.value = d.value := by
  obtain ⟨p, hp, hv⟩ := format_plain d
  rw [readFinite_plain hp h, hv]

lemma read_short {p : Plain} (h : p.text.length ≤ 1000000) : read p.text = some (.finite p.decimal) := by
  have hlength := p.text_length
  have hfraction : p.fraction.length ≤ 1000000 := by
    by_cases hf : p.fraction = []
    · simp [hf]
    · rw [if_neg hf] at hlength
      omega
  have hwhole : p.whole.length ≤ 1000000 := by omega
  have hpositive : 0 < p.whole.length := List.length_pos_of_ne_nil p.whole_ne
  have hdigits := Context.digits_le p.coefficient_lt (by omega)
  have hexponent : p.decimal.exponent = -p.fraction.length := rfl
  have hbuildable : buildable p.decimal = true := by
    unfold buildable
    rw [decide_eq_true_iff, hexponent]
    refine ⟨by omega, ?_⟩
    split_ifs <;> omega
  rw [read_text, if_pos hbuildable]

end Reader

section Scaled

variable {x : ℚ} {scale : ℕ} {n : ℤ}

lemma scaled_value {p : Plain} (h : p.fraction.length ≤ scale) : ∃ n : ℤ, p.decimal.value * 10 ^ scale = n := by
  refine ⟨signed p.negative p.decimal.coefficient * 10 ^ (scale - p.fraction.length), ?_⟩
  have hpow : (10 : ℚ) ^ (-(p.fraction.length : ℤ)) * 10 ^ scale = 10 ^ (scale - p.fraction.length) := by
    rw [← zpow_natCast, ← zpow_natCast, ← zpow_add₀ (by decide)]
    congr 1
    omega
  rw [value, show p.decimal.exponent = -(p.fraction.length : ℤ) from rfl, mul_assoc, hpow]
  push_cast
  rfl

lemma value_of_scaled (h : x * 10 ^ scale = n) : (fixed (x < 0) n.natAbs scale).decimal.value = x := by
  have hpow : (0 : ℚ) < 10 ^ scale := by positivity
  have hcoefficient : signed (decide (x < 0)) n.natAbs = n := by
    by_cases hx : x < 0
    · have hn : n < 0 := by
        have hneg : (n : ℚ) < 0 := h ▸ mul_neg_of_neg_of_pos hx hpow
        exact_mod_cast hneg
      rw [decide_eq_true hx]
      change -(n.natAbs : ℤ) = n
      omega
    · have hn : 0 ≤ n := by
        have hpos : (0 : ℚ) ≤ n := h ▸ mul_nonneg (not_lt.mp hx) hpow.le
        exact_mod_cast hpos
      rw [decide_eq_false hx]
      change (n.natAbs : ℤ) = n
      omega
  rw [fixed_decimal, value, hcoefficient, ← h, mul_assoc, zpow_neg, zpow_natCast, mul_inv_cancel₀ hpow.ne', mul_one]

lemma fixedText_length_le {p : Plain} (h : p.decimal.value * 10 ^ p.fraction.length = n) :
    (fixedText (p.decimal.value < 0) n.natAbs p.fraction.length).length ≤ p.text.length := by
  have hcoefficient : n = signed p.negative p.decimal.coefficient := by
    have hpow : (0 : ℚ) < 10 ^ p.fraction.length := by positivity
    rw [value, show p.decimal.exponent = -(p.fraction.length : ℤ) from rfl, mul_assoc, zpow_neg, zpow_natCast,
      inv_mul_cancel₀ hpow.ne', mul_one] at h
    exact_mod_cast h.symm
  have hlt : n.natAbs < 10 ^ (p.whole.length + p.fraction.length) := by
    rw [hcoefficient, natAbs_signed]
    exact p.coefficient_lt
  have hwhole : 0 < p.whole.length := List.length_pos_of_ne_nil p.whole_ne
  have hdigits := (Nat.length_toDigits_le_iff (by decide) (by omega)).mpr hlt
  have hpadded : (padded n.natAbs p.fraction.length).length ≤ p.whole.length + p.fraction.length := by
    simp only [padded, zfill, List.length_append, List.length_replicate]
    omega
  have hsign : p.decimal.value < 0 → p.negative = true := by
    intro hneg
    by_contra hp
    refine absurd hneg (not_lt.mpr ?_)
    rw [value, show p.decimal.negative = false from Bool.eq_false_iff.mpr hp]
    exact mul_nonneg (Int.cast_nonneg (Int.natCast_nonneg _)) (zpow_nonneg (by decide) _)
  have hminus : (if decide (p.decimal.value < 0) = true then 1 else 0) ≤ if p.negative = true then 1 else 0 := by
    by_cases hneg : p.decimal.value < 0
    · rw [if_pos (hsign hneg)]
      split_ifs <;> decide
    · simp [hneg]
  have hlength := (fixed (p.decimal.value < 0) n.natAbs p.fraction.length).text_length
  rw [fixed_text] at hlength
  rw [hlength, p.text_length]
  have hfraction := fixed_fraction (p.decimal.value < 0) n.natAbs p.fraction.length
  have hbody : (fixed (p.decimal.value < 0) n.natAbs p.fraction.length).whole.length + p.fraction.length =
      (padded n.natAbs p.fraction.length).length := by
    have hlow := padded_length n.natAbs p.fraction.length
    simp only [fixed, List.length_take]
    omega
  have hsame : (fixed (p.decimal.value < 0) n.natAbs p.fraction.length).fraction = [] ↔ p.fraction = [] := by
    rw [← List.length_eq_zero_iff, hfraction, List.length_eq_zero_iff]
  have hdecimals : (if (fixed (p.decimal.value < 0) n.natAbs p.fraction.length).fraction = [] then 0
      else (fixed (p.decimal.value < 0) n.natAbs p.fraction.length).fraction.length + 1) =
      if p.fraction = [] then 0 else p.fraction.length + 1 := by
    simp only [hsame, hfraction]
  rw [hdecimals]
  change (if decide (p.decimal.value < 0) = true then 1 else 0) + _ + _ ≤ _
  omega

end Scaled

end IbkrPlatform.Library.Decimal
