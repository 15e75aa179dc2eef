import IbkrPlatform.FlexDaily.Calendar
import IbkrPlatform.Library.DecimalText

/-! The standard library's reader of dates and times by a format, and its writer of dates. -/

namespace IbkrPlatform.FlexDaily.Strptime

open Calendar (firstDay monthOf)
open Library

def calendarDay (year month day : ℕ) : Option Day :=
  let m : ℤ := year * 12 + month - 1
  if 1 ≤ year ∧ 1 ≤ month ∧ month ≤ 12 ∧ 1 ≤ day ∧ firstDay m + day ≤ firstDay (m + 1) then
    some (firstDay m + day - 1)
  else none

def yearDigits : List Char → List (ℕ × List Char)
  | a :: b :: c :: d :: cs => (([a, b, c, d].mapM Text.digit).map fun ds => (ds.foldl (fun n k => 10 * n + k) 0, cs)).toList
  | _ => []

def leadingDigit : List Char → List (ℕ × List Char)
  | c :: cs => if '1' ≤ c ∧ c ≤ '9' then [(c.toNat - 48, cs)] else []
  | [] => []

/-- `%m`, in the order of the alternatives `1[0-2]|0[1-9]|[1-9]`. -/
def monthDigits (cs : List Char) : List (ℕ × List Char) :=
  (match cs with
    | '1' :: c :: rest => if '0' ≤ c ∧ c ≤ '2' then [(10 + (c.toNat - 48), rest)] else []
    | '0' :: rest => leadingDigit rest
    | _ => []) ++ leadingDigit cs

/-- `%d`, in the order of the alternatives `3[0-1]|[1-2]\d|0[1-9]|[1-9]| [1-9]`. -/
def dayDigits (cs : List Char) : List (ℕ × List Char) :=
  (match cs with
    | '3' :: c :: rest => if c = '0' ∨ c = '1' then [(30 + (c.toNat - 48), rest)] else []
    | '1' :: c :: rest => ((Text.digit c).map fun k => (10 + k, rest)).toList
    | '2' :: c :: rest => ((Text.digit c).map fun k => (20 + k, rest)).toList
    | '0' :: rest => leadingDigit rest
    | _ => []) ++ leadingDigit cs ++
    match cs with
    | ' ' :: rest => leadingDigit rest
    | _ => []

def separated : Option Char → List Char → List (List Char)
  | none, cs => [cs]
  | some sep, c :: cs => if c = sep then [cs] else []
  | some _, [] => []

/-- `strptime` with `%Y%m%d`, or with a separator between the parts: the first match has to be the whole text. -/
def strptime (sep : Option Char) (cs : List Char) : Option Day :=
  let found := (yearDigits cs).flatMap fun y => (separated sep y.2).flatMap fun afterYear =>
    (monthDigits afterYear).flatMap fun m => (separated sep m.2).flatMap fun afterMonth =>
      (dayDigits afterMonth).map fun d => (y.1, m.1, d.1, d.2)
  match found with
  | (y, m, d, []) :: _ => calendarDay y m d
  | _ => none

def anyDigit : List Char → List (ℕ × List Char)
  | c :: cs => ((Text.digit c).map fun k => (k, cs)).toList
  | [] => []

def twoDigits (low high : Char) : List Char → List (ℕ × List Char)
  | t :: cs => if low ≤ t ∧ t ≤ high then (anyDigit cs).map fun d => ((t.toNat - 48) * 10 + d.1, d.2) else []
  | [] => []

/-- `%H`, in the order of the alternatives `2[0-3]|[0-1]\d|\d`. -/
def hourDigits (cs : List Char) : List (ℕ × List Char) :=
  (match cs with
    | '2' :: c :: rest => if '0' ≤ c ∧ c ≤ '3' then [(20 + (c.toNat - 48), rest)] else []
    | _ => twoDigits '0' '1' cs) ++ anyDigit cs

def minuteDigits (cs : List Char) : List (ℕ × List Char) := twoDigits '0' '5' cs ++ anyDigit cs

/-- `%S`, in the order of the alternatives `6[0-1]|[0-5]\d|\d`. -/
def secondDigits (cs : List Char) : List (ℕ × List Char) :=
  (match cs with
    | '6' :: c :: rest => if c = '0' ∨ c = '1' then [(60 + (c.toNat - 48), rest)] else []
    | _ => twoDigits '0' '5' cs) ++ anyDigit cs

/-- Whether `strptime` accepts a text with `%Y%m%d;%H%M%S`; a leap second is no time of a `datetime`. -/
def isStamp (cs : List Char) : Bool :=
  let found := (yearDigits cs).flatMap fun y => (monthDigits y.2).flatMap fun m => (dayDigits m.2).flatMap fun d =>
    (separated (some ';') d.2).flatMap fun time => (hourDigits time).flatMap fun h => (minuteDigits h.2).flatMap fun min =>
      (secondDigits min.2).map fun s => (calendarDay y.1 m.1 d.1, s.1, s.2)
  match found with
  | (some _, second, []) :: _ => second < 60
  | _ => false

example : isStamp "20261102;235959".toList = true ∧ isStamp "20261102;235960".toList = false := by decide

def padded (width n : ℕ) : List Char := Decimal.zfill width (Nat.toDigits 10 n)

def parts (day : Day) : ℕ × ℕ × ℕ :=
  let m := monthOf day
  ((m / 12).toNat, (m % 12).toNat + 1, (day - firstDay m).toNat + 1)

/-- `date.isoformat`. -/
def isoText (day : Day) : String :=
  let (year, month, d) := parts day
  String.ofList (padded 4 year ++ '-' :: padded 2 month ++ '-' :: padded 2 d)

/-- `strftime("%Y%m%d")`. -/
def compactText (day : Day) : String :=
  let (year, month, d) := parts day
  String.ofList (Nat.toDigits 10 year ++ padded 2 month ++ padded 2 d)

example : isoText 20759 = "2026-11-02" ∧ compactText 20759 = "20261102" := by decide

end IbkrPlatform.FlexDaily.Strptime
