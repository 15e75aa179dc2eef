import Mathlib.Algebra.Order.Group.Int
import Mathlib.Data.List.Perm.Subperm
import Mathlib.Order.Monotone.Basic
import Mathlib.Data.List.Nodup
import Mathlib.Data.Rat.Init

/-! Broker dates, instants, and the standard-library readers of the texts that carry them. -/

namespace IbkrPlatform.FlexDaily

/-- Microseconds since the epoch, UTC. -/
abbrev Instant := ℤ

/-- Days since the epoch. -/
abbrev Day := ℤ

/-- Months since January of year 0. -/
abbrev Month := ℤ

namespace Calendar

def minutes (n : ℕ) : Instant := n * 60 * 1000000

def hours (n : ℕ) : Instant := n * minutes 60

def dayOf (local_ : Instant) : Day := local_ / hours 24

def firstDay (month : ℤ) : ℤ :=
  let y := if month % 12 < 2 then month / 12 - 1 else month / 12
  let doy := (153 * ((month % 12 + 10) % 12) + 2) / 5
  let yoe := y % 400
  y / 400 * 146097 + (yoe * 365 + yoe / 4 - yoe / 100 + doy) - 719468

def monthOf (day : ℤ) : ℤ :=
  let z := day + 719468
  let doe := z % 146097
  let yoe := (doe - doe / 1460 + doe / 36524 - doe / 146096) / 365
  let doy := doe - (365 * yoe + yoe / 4 - yoe / 100)
  let mp := (5 * doy + 2) / 153
  let y := z / 146097 * 400 + yoe
  if mp < 10 then y * 12 + mp + 2 else (y + 1) * 12 + mp - 10

example : firstDay (monthOf 20760) = 20758 := by decide

lemma monthOf_before_campaign (day : ℤ) (h : day < 20760) : monthOf day ≤ 24322 := by
  unfold monthOf
  extract_lets z doe yoe doy mp y
  have hz : z < 740228 := by omega
  have hdoe : 0 ≤ doe ∧ doe < 146097 := by omega
  have hyoe : 0 ≤ yoe ∧ yoe ≤ 399 := by omega
  have hdoy : doy ≤ 470 := by omega
  have hmp : mp ≤ 15 := by omega
  have hera : z / 146097 ≤ 5 := by omega
  rcases hera.lt_or_eq with he | he
  · clear_value yoe doy mp
    split_ifs <;> omega
  · have hyear : yoe ≤ 26 := by omega
    rcases hyear.lt_or_eq with hy | hy
    · clear_value mp
      split_ifs <;> omega
    · have hlate : doy < 247 := by omega
      have hmonth : mp ≤ 8 := by omega
      clear_value mp
      split_ifs <;> omega

/-- `days(start, end)`, both ends included. -/
def days (start stop : Day) : List Day :=
  (List.range (stop - start + 1).toNat).map fun n : ℕ => start + n

lemma days_nodup (start stop : Day) : (days start stop).Nodup := by
  refine List.Nodup.map (fun m n h => ?_) List.nodup_range
  exact Int.ofNat.inj (by simpa using h)

lemma days_eq_nil {start stop : Day} (h : stop < start) : days start stop = [] := by
  have hn : (stop - start + 1).toNat = 0 := by grind
  rw [days, hn]
  rfl

lemma mem_days {start stop day : Day} : day ∈ days start stop ↔ start ≤ day ∧ day ≤ stop := by
  simp only [days, List.mem_map, List.mem_range]
  constructor
  · rintro ⟨n, hn, rfl⟩
    grind
  · rintro ⟨hs, he⟩
    exact ⟨(day - start).toNat, by grind, by grind⟩

def yearDays (y : ℤ) : ℤ := y / 400 * 146097 + (y % 400 * 365 + y % 400 / 4 - y % 400 / 100)

lemma yearDays_succ (y : ℤ) : yearDays y + 365 ≤ yearDays (y + 1) := by
  unfold yearDays
  omega

lemma firstDay_eq (m : ℤ) : firstDay m =
    yearDays (if m % 12 < 2 then m / 12 - 1 else m / 12) + (153 * ((m % 12 + 10) % 12) + 2) / 5 - 719468 := by
  unfold firstDay yearDays
  extract_lets y doy yoe
  rw [add_assoc]

lemma firstDay_lt_succ (m : ℤ) : firstDay m < firstDay (m + 1) := by
  rw [firstDay_eq, firstDay_eq]
  by_cases hmarch : m % 12 = 1
  · have hyear := yearDays_succ (m / 12 - 1)
    have hnext : (m + 1) % 12 = 2 ∧ (m + 1) / 12 = m / 12 - 1 + 1 := by omega
    rw [hmarch, hnext.1, hnext.2, if_pos (by decide), if_neg (by decide)]
    omega
  · have hsame : (if (m + 1) % 12 < 2 then (m + 1) / 12 - 1 else (m + 1) / 12) = if m % 12 < 2 then m / 12 - 1 else m / 12 := by
      split_ifs <;> omega
    rw [hsame]
    omega

lemma firstDay_lt_iff {m n : ℤ} : firstDay m < firstDay n ↔ m < n := (strictMono_int_of_lt_succ firstDay_lt_succ).lt_iff_lt

lemma firstDay_le {m n : ℤ} (h : m ≤ n) : firstDay m ≤ firstDay n := (strictMono_int_of_lt_succ firstDay_lt_succ).monotone h

def monthDays (m : Month) : List Day := days (firstDay m) (firstDay (m + 1) - 1)

lemma mem_monthDays {m : Month} {d : Day} : d ∈ monthDays m ↔ firstDay m ≤ d ∧ d < firstDay (m + 1) := by
  rw [monthDays, mem_days, Int.le_sub_one_iff]

lemma monthDays_disjoint {m n : ℤ} {d : Day} (hm : d ∈ monthDays m) (hn : d ∈ monthDays n) : m = n := by
  rw [mem_monthDays] at hm hn
  have hle : firstDay m < firstDay (n + 1) := hm.1.trans_lt hn.2
  have hge : firstDay n < firstDay (m + 1) := hn.1.trans_lt hm.2
  rw [firstDay_lt_iff] at hle hge
  omega

lemma dayOfYear_bounds {doe yoe : ℤ} (h0 : 0 ≤ doe) (h1 : doe < 146097)
    (hy : yoe = (doe - doe / 1460 + doe / 36524 - doe / 146096) / 365) :
    0 ≤ doe - (365 * yoe + yoe / 4 - yoe / 100) ∧ doe - (365 * yoe + yoe / 4 - yoe / 100) ≤ 365 := by
  rcases (show doe ≤ 146096 by omega).lt_or_eq with hlt | rfl
  · obtain ⟨c, hc⟩ : ∃ c, doe / 36524 = c := ⟨_, rfl⟩
    obtain ⟨q, hq⟩ : ∃ q, (doe - 36524 * c) / 1461 = q := ⟨_, rfl⟩
    obtain ⟨t, ht⟩ : ∃ t, doe / 1460 - 25 * c - q = t := ⟨_, rfl⟩
    obtain ⟨s, hs⟩ : ∃ s, doe - 36524 * c - 1461 * q = s := ⟨_, rfl⟩
    have hrange : 0 ≤ c ∧ c ≤ 3 ∧ 0 ≤ q ∧ q ≤ 24 ∧ 0 ≤ s ∧ s ≤ 1460 := by omega
    have hspare : 0 ≤ s - t ∧ s - t ≤ 1459 := by omega
    have hyear : yoe = 100 * c + 4 * q + (s - t) / 365 := by omega
    have hfourth : yoe / 4 = 25 * c + q := by omega
    have hcentury : yoe / 100 = c := by omega
    omega
  · omega

lemma firstDay_monthOf_le (day : ℤ) : firstDay (monthOf day) ≤ day := by
  unfold monthOf
  extract_lets z doe yoe doy mp y
  have hdoe : 0 ≤ doe ∧ doe < 146097 := by omega
  have hyoe : 0 ≤ yoe ∧ yoe ≤ 399 := by omega
  have hdoy : 0 ≤ doy ∧ doy ≤ 365 := dayOfYear_bounds hdoe.1 hdoe.2 rfl
  have hmp : 0 ≤ mp ∧ mp ≤ 11 := by omega
  have hyear : yearDays y = z - doy := by
    have hera : y / 400 = z / 146097 := by omega
    have hrest : y % 400 = yoe := by omega
    rw [yearDays, hera, hrest]
    omega
  have hstart : (153 * mp + 2) / 5 ≤ doy := by omega
  have hday : z - doy + (153 * mp + 2) / 5 - 719468 ≤ day := by omega
  by_cases h : mp < 10
  · have hmonth : (y * 12 + mp + 2) % 12 = mp + 2 ∧ (y * 12 + mp + 2) / 12 = y := by omega
    rw [if_pos h, firstDay_eq, hmonth.1, hmonth.2, if_neg (show ¬ mp + 2 < 2 by omega), hyear,
      show (mp + 2 + 10) % 12 = mp by omega]
    exact hday
  · have hmonth : ((y + 1) * 12 + mp - 10) % 12 = mp - 10 ∧ ((y + 1) * 12 + mp - 10) / 12 - 1 = y := by omega
    rw [if_neg h, firstDay_eq, hmonth.1, hmonth.2, if_pos (show mp - 10 < 2 by omega), hyear,
      show (mp - 10 + 10) % 12 = mp by omega]
    exact hday

lemma days_sorted (start stop : Day) : (days start stop).Pairwise (· < ·) := by
  refine List.Pairwise.map _ (fun m n h => ?_) List.pairwise_lt_range
  exact add_lt_add_right (by exact_mod_cast h) start

lemma eq_days {start stop : Day} {l : List Day} (hsorted : l.Pairwise (· < ·)) (hrange : ∀ d ∈ l, start ≤ d ∧ d ≤ stop)
    (hlength : (l.length : ℤ) = stop - start + 1) : l = days start stop := by
  have hsub : l.Subperm (days start stop) :=
    List.subperm_of_subset (hsorted.imp fun h => h.ne) fun d hd => mem_days.mpr (hrange d hd)
  have hsize : (days start stop).length = l.length := by
    rw [days, List.length_map, List.length_range, ← hlength, Int.toNat_natCast]
  exact (hsub.perm_of_length_le hsize.le).eq_of_pairwise (fun a b _ _ h h' => absurd h h'.not_gt) hsorted (days_sorted start stop)

end Calendar

structure Zone where
  utcoffset : Instant → ℤ

def Zone.dateOf (zone : Zone) (utc : Instant) : Day := Calendar.dayOf (utc + zone.utcoffset utc)

/-- What `datetime.fromisoformat` reads: the wall clock, and the offset where the text has one. -/
structure Parsed where
  wall : ℤ
  utcoffset : Option ℤ

/-- The readers of the standard library that the program calls; `none` is its `ValueError`. -/
structure Readers where
  fromisoformat : String → Option Parsed
  zoneInfo : String → Option Zone
  strptimeDay : String → Option Day
  /-- `sha256` of the sorted JSON of a row. -/
  fingerprint : List (String × String) → String

/-- What a failing reader raises: an exception that its caller handles, or one that escapes. -/
inductive Fault | valueError | overflow
deriving DecidableEq

abbrev Attributes := List (String × String)

structure Row where
  tag : String
  attrib : Attributes

def Row.get (row : Row) (name : String) : Option String := row.attrib.lookup name

/-- A `FlexStatement`: its attributes, and its children with their own child rows. -/
structure Statement where
  attrib : Attributes
  children : List (String × List Row)

namespace Statement

def get (s : Statement) (name : String) : Option String := s.attrib.lookup name

/-- `findall('./section/*')`. -/
def rows (s : Statement) (child : String) : List Row :=
  (s.children.filter fun c => c.1 = child).flatMap Prod.snd

def findall (s : Statement) (child tag : String) : List Row :=
  (s.rows child).filter fun row => row.tag = tag

end Statement

end IbkrPlatform.FlexDaily
