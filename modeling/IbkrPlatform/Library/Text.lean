import Mathlib.Data.Int.Notation
import Mathlib.Data.List.DropRight

/-! Texts, with the white space that Unicode knows. -/

namespace IbkrPlatform.Library.Text

def isSpace (c : Char) : Bool :=
  let n := c.toNat
  9 ≤ n ∧ n ≤ 13 ∨ 28 ≤ n ∧ n ≤ 32 ∨ n = 133 ∨ n = 160 ∨ n = 5760 ∨ 8192 ≤ n ∧ n ≤ 8202 ∨ n = 8232 ∨ n = 8233 ∨
    n = 8239 ∨ n = 8287 ∨ n = 12288

def stripChars (cs : List Char) : List Char := ((cs.dropWhile isSpace).reverse.dropWhile isSpace).reverse

def strip (s : String) : String := String.ofList (stripChars s.toList)

/-- `split()`: the runs of characters that are not white space. -/
def words (cs : List Char) : List (List Char) := (cs.splitOnP isSpace).filter (· ≠ [])

/-- `split(sep, 1)` of a text that holds the separator. -/
def splitOnce (sep : Char) (cs : List Char) : List Char × List Char :=
  (cs.takeWhile (· ≠ sep), (cs.dropWhile (· ≠ sep)).tail)

/-- `lower()` on the letters of ASCII. -/
def lowerChar (c : Char) : Char := if 65 ≤ c.toNat ∧ c.toNat ≤ 90 then Char.ofNat (c.toNat + 32) else c

def lower (cs : List Char) : List Char := cs.map lowerChar

def upperChar (c : Char) : Char := if 97 ≤ c.toNat ∧ c.toNat ≤ 122 then Char.ofNat (c.toNat - 32) else c

/-- `upper()`, with what it makes of each character beyond ASCII. -/
def upper (beyond : Char → List Char) (s : String) : String :=
  String.ofList (s.toList.flatMap fun c => if c.toNat < 128 then [upperChar c] else beyond c)

def isCapital (c : Char) : Bool := 65 ≤ c.toNat ∧ c.toNat ≤ 90

def decimalZeros : List ℕ :=
  [48, 1632, 1776, 1984, 2406, 2534, 2662, 2790, 2918, 3046, 3174, 3302, 3430, 3558, 3664, 3792, 3872, 4160, 4240, 6112, 6160, 6470,
    6608, 6784, 6800, 6992, 7088, 7232, 7248, 42528, 43216, 43264, 43472, 43504, 43600, 44016, 65296, 66720, 68912, 69734, 69872,
    69942, 70096, 70384, 70736, 70864, 71248, 71360, 71472, 71904, 72016, 72784, 73040, 73120, 73552, 92768, 92864, 93008, 120782,
    120792, 120802, 120812, 120822, 123200, 123632, 124144, 125264, 130032]

def digit (c : Char) : Option ℕ :=
  (decimalZeros.find? fun n => n ≤ c.toNat ∧ c.toNat < n + 10).map fun n => c.toNat - n

def digitsFrom (value : ℕ) : List Char → Option ℕ
  | [] => some value
  | '_' :: c :: cs => (digit c).bind fun d => digitsFrom (10 * value + d) cs
  | c :: cs => (digit c).bind fun d => digitsFrom (10 * value + d) cs

def natural : List Char → Option ℕ
  | [] => none
  | c :: cs => (digit c).bind fun d => digitsFrom d cs

/-- The built-in `int(text)`; it refuses a text with more than 4300 digits. -/
def integer (cs : List Char) : Option ℤ :=
  let text := stripChars cs
  if 4300 < (text.filter fun c => (digit c).isSome).length then none
  else
    match text with
    | '-' :: rest => (natural rest).map fun n => -(n : ℤ)
    | '+' :: rest => (natural rest).map Nat.cast
    | rest => (natural rest).map Nat.cast

lemma lowerChar_congr {β : Type} (f : Char → β) (h : ∀ n ∈ List.range 26, f (Char.ofNat (97 + n)) = f (Char.ofNat (65 + n)))
    (c : Char) : f (lowerChar c) = f c := by
  unfold lowerChar
  split_ifs with hc
  · have hn := h (c.toNat - 65) (by rw [List.mem_range]; omega)
    rw [show 97 + (c.toNat - 65) = c.toNat + 32 by omega, show 65 + (c.toNat - 65) = c.toNat by omega, Char.ofNat_toNat] at hn
    exact hn
  · rfl

@[simp] lemma isSpace_lowerChar (c : Char) : isSpace (lowerChar c) = isSpace c :=
  lowerChar_congr isSpace (by decide) c

@[simp] lemma digit_lowerChar (c : Char) : digit (lowerChar c) = digit c :=
  lowerChar_congr digit (by decide) c

lemma lowerChar_eq_iff {sep : Char} (h : sep ∈ ['*', '+', ',', '-', '/', '_']) (c : Char) : lowerChar c = sep ↔ c = sep := by
  have hcongr := lowerChar_congr (fun c => ['*', '+', ',', '-', '/', '_'].map fun sep => decide (c = sep)) (by decide) c
  simp only [List.map_inj_left, decide_eq_decide] at hcongr
  exact hcongr sep h

lemma dropWhile_lower {p : Char → Bool} (hp : ∀ c, p (lowerChar c) = p c) (cs : List Char) :
    (lower cs).dropWhile p = lower (cs.dropWhile p) := by
  rw [lower, List.dropWhile_map]
  congr 2
  funext c
  exact hp c

lemma stripChars_lower (cs : List Char) : stripChars (lower cs) = lower (stripChars cs) := by
  have hreverse : ∀ l, (lower l).reverse = lower l.reverse := fun l => List.map_reverse.symm
  rw [stripChars, dropWhile_lower isSpace_lowerChar, hreverse, dropWhile_lower isSpace_lowerChar, hreverse]
  rfl

lemma stripChars_idem (cs : List Char) : stripChars (stripChars cs) = stripChars cs := by
  have hprefix : stripChars cs <+: cs.dropWhile isSpace := by
    rw [stripChars, ← List.reverse_suffix, List.reverse_reverse]
    exact List.dropWhile_suffix isSpace
  have hfront : (stripChars cs).dropWhile isSpace = stripChars cs := by
    obtain ⟨tail, htail⟩ := hprefix
    cases hc : stripChars cs with
    | nil => rfl
    | cons c rest =>
      rw [hc] at htail
      have hkept := List.dropWhile_idempotent isSpace cs
      rw [← htail] at hkept
      cases hspace : isSpace c with
      | false => rw [List.dropWhile_cons_of_neg (by simp [hspace])]
      | true =>
        rw [List.cons_append, List.dropWhile_cons_of_pos hspace] at hkept
        have hlength := congrArg List.length hkept
        have hle := (List.dropWhile_suffix (l := rest ++ tail) isSpace).length_le
        simp only [List.length_cons] at hlength
        omega
  rw [stripChars, hfront]
  unfold stripChars
  rw [List.reverse_reverse, List.dropWhile_idempotent]

lemma strip_strip (s : String) : strip (strip s) = strip s := by
  rw [strip, strip, String.toList_ofList, stripChars_idem]

lemma splitOn_lower {sep : Char} (h : sep ∈ ['*', '+', ',', '-', '/', '_']) (cs : List Char) :
    (lower cs).splitOn sep = (cs.splitOn sep).map lower := by
  induction cs with
  | nil => rfl
  | cons c cs ih =>
    have hsep : (lowerChar c == sep) = (c == sep) := by
      rw [Bool.eq_iff_iff, beq_iff_eq, beq_iff_eq, lowerChar_eq_iff h]
    change (lowerChar c :: lower cs).splitOn sep = _
    rw [List.splitOn_cons_eq_if_modifyHead, List.splitOn_cons_eq_if_modifyHead, hsep, ih]
    split
    · rfl
    · cases cs.splitOn sep with
      | nil => rfl
      | cons first rest => rfl

lemma splitOnce_lower {sep : Char} (h : sep ∈ ['*', '+', ',', '-', '/', '_']) (cs : List Char) :
    splitOnce sep (lower cs) = (lower (splitOnce sep cs).1, lower (splitOnce sep cs).2) := by
  have hp : ∀ c, decide (lowerChar c ≠ sep) = decide (c ≠ sep) := fun c => by rw [decide_eq_decide, Ne, Ne, lowerChar_eq_iff h]
  have htake : (lower cs).takeWhile (· ≠ sep) = lower (cs.takeWhile (· ≠ sep)) := by
    rw [lower, List.takeWhile_map]
    congr 2
    funext c
    exact hp c
  rw [splitOnce, dropWhile_lower hp, htake, lower, lower, ← List.map_tail]
  rfl

lemma mem_lower {sep : Char} (h : sep ∈ ['*', '+', ',', '-', '/', '_']) (cs : List Char) : sep ∈ lower cs ↔ sep ∈ cs := by
  simp only [lower, List.mem_map, lowerChar_eq_iff h]
  simp

lemma digitsFrom_lower (value : ℕ) (cs : List Char) : digitsFrom value (lower cs) = digitsFrom value cs := by
  fun_induction digitsFrom value cs with
  | case1 => rfl
  | case2 value c cs ih =>
    change (digit (lowerChar c)).bind (fun d => digitsFrom (10 * value + d) (lower cs)) = _
    rw [digit_lowerChar]
    exact congrArg _ (funext ih)
  | case3 value c cs hc ih =>
    have hnot : ∀ d ds, lowerChar c = '_' → lower cs = d :: ds → False := by
      intro d ds hd hds
      cases cs with
      | nil => cases hds
      | cons d ds => exact hc d ds ((lowerChar_eq_iff (by decide) c).mp hd) rfl
    change digitsFrom value (lowerChar c :: lower cs) = _
    rw [digitsFrom.eq_3 _ _ _ hnot, digit_lowerChar]
    exact congrArg _ (funext ih)

lemma natural_lower (cs : List Char) : natural (lower cs) = natural cs := by
  cases cs with
  | nil => rfl
  | cons c cs =>
    change (digit (lowerChar c)).bind (fun d => digitsFrom d (lower cs)) = _
    simp only [digit_lowerChar, digitsFrom_lower]
    rfl

lemma integer_lower (cs : List Char) : integer (lower cs) = integer cs := by
  have hlength : ((lower (stripChars cs)).filter fun c => (digit c).isSome).length =
      ((stripChars cs).filter fun c => (digit c).isSome).length := by
    rw [lower, List.filter_map, List.length_map]
    congr 2
    funext c
    rw [Function.comp_apply, digit_lowerChar]
  unfold integer
  simp only [stripChars_lower, hlength]
  generalize stripChars cs = text
  cases text with
  | nil => rfl
  | cons c rest =>
    have hminus : lowerChar c = '-' ↔ c = '-' := lowerChar_eq_iff (by decide) c
    have hplus : lowerChar c = '+' ↔ c = '+' := lowerChar_eq_iff (by decide) c
    have hnatural := natural_lower (c :: rest)
    change (if _ then none else match lowerChar c :: lower rest with
      | '-' :: rest => (natural rest).map fun n => -(n : ℤ)
      | '+' :: rest => (natural rest).map Nat.cast
      | rest => (natural rest).map Nat.cast) = _
    change natural (lowerChar c :: lower rest) = _ at hnatural
    by_cases hm : c = '-'
    · rw [hminus.mpr hm, hm]
      simp only [natural_lower]
    by_cases hp : c = '+'
    · rw [hplus.mpr hp, hp]
      simp only [natural_lower]
    · congr 1
      split
      · exact absurd (hminus.mp (List.cons.inj ‹_›).1) hm
      · exact absurd (hplus.mp (List.cons.inj ‹_›).1) hp
      · split
        · exact absurd (List.cons.inj ‹_›).1 hm
        · exact absurd (List.cons.inj ‹_›).1 hp
        · rw [hnatural]

lemma integer_stripChars (cs : List Char) : integer (stripChars cs) = integer cs := by
  unfold integer
  rw [stripChars_idem]

section Capitals

lemma stripChars_of_nonspace {cs : List Char} (h : ∀ c ∈ cs, isSpace c = false) : stripChars cs = cs := by
  have hnone : ∀ {cs : List Char}, (∀ c ∈ cs, isSpace c = false) → cs.dropWhile isSpace = cs := by
    intro cs hcs
    cases cs with
    | nil => rfl
    | cons c cs => rw [List.dropWhile_cons_of_neg (by simp [hcs c])]
  rw [stripChars, hnone h, hnone fun c hc => h c (List.mem_reverse.mp hc), List.reverse_reverse]

lemma range_of_isCapital {c : Char} (h : isCapital c = true) : 65 ≤ c.toNat ∧ c.toNat ≤ 90 := of_decide_eq_true h

lemma strip_capitals {s : String} (h : s.toList.all isCapital = true) : strip s = s := by
  rw [strip, stripChars_of_nonspace, String.ofList_toList]
  intro c hc
  have hrange := range_of_isCapital (List.all_eq_true.mp h c hc)
  simp only [isSpace, decide_eq_false_iff_not]
  omega

lemma upper_capitals (beyond : Char → List Char) {s : String} (h : s.toList.all isCapital = true) : upper beyond s = s := by
  have hsame : ∀ c ∈ s.toList, (if c.toNat < 128 then [upperChar c] else beyond c) = [c] := by
    intro c hc
    have hrange := range_of_isCapital (List.all_eq_true.mp h c hc)
    rw [if_pos (by omega), upperChar, if_neg (by omega)]
  rw [upper, List.flatMap_congr hsame]
  simp

lemma upperChar_congr {β : Type} (f : Char → β) (h : ∀ n ∈ List.range 26, f (Char.ofNat (65 + n)) = f (Char.ofNat (97 + n)))
    (c : Char) : f (upperChar c) = f c := by
  unfold upperChar
  split_ifs with hc
  · have hn := h (c.toNat - 97) (by rw [List.mem_range]; omega)
    rw [show 65 + (c.toNat - 97) = c.toNat - 32 by omega, show 97 + (c.toNat - 97) = c.toNat by omega, Char.ofNat_toNat] at hn
    exact hn
  · rfl

@[simp] lemma isSpace_upperChar (c : Char) : isSpace (upperChar c) = isSpace c := upperChar_congr isSpace (by decide) c

@[simp] lemma upperChar_upperChar (c : Char) : upperChar (upperChar c) = upperChar c := upperChar_congr upperChar (by decide) c

lemma stripChars_upper (cs : List Char) : stripChars (cs.map upperChar) = (stripChars cs).map upperChar := by
  have hdrop : ∀ l : List Char, (l.map upperChar).dropWhile isSpace = (l.dropWhile isSpace).map upperChar := by
    intro l
    rw [List.dropWhile_map]
    congr 2
    funext c
    exact isSpace_upperChar c
  rw [stripChars, hdrop, ← List.map_reverse, hdrop, ← List.map_reverse]
  rfl

lemma upper_singletons (s : String) : upper (fun c => [c]) s = String.ofList (s.toList.map upperChar) := by
  have hone : ∀ c : Char, (if c.toNat < 128 then [upperChar c] else [c]) = [upperChar c] := by
    intro c
    split_ifs with hc
    · rfl
    · rw [upperChar, if_neg (by omega)]
  rw [upper, List.flatMap_congr fun c _ => hone c, ← List.map_eq_flatMap]

lemma upper_strip_stable (s : String) :
    upper (fun c => [c]) (strip (upper (fun c => [c]) (strip s))) = upper (fun c => [c]) (strip s) := by
  rw [upper_singletons, upper_singletons, strip, strip, String.toList_ofList, String.toList_ofList, String.toList_ofList,
    stripChars_upper, stripChars_idem, List.map_map]
  congr 2
  funext c
  exact upperChar_upperChar c

end Capitals

end IbkrPlatform.Library.Text
