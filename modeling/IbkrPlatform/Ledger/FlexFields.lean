import IbkrPlatform.FlexDaily.Calendar
import IbkrPlatform.Library.DecimalText

/-! The readers of single fields of a Flex report. -/

namespace IbkrPlatform.Ledger

open FlexDaily (Day Row Statement)
open FlexDaily.Calendar (firstDay)
open Library

def digitsOf (cs : List Char) : Option ℕ :=
  if cs.all Char.isDigit then some (Nat.ofDigitChars 10 cs 0) else none

/-- A date whose year is written with four digits by `strftime`. -/
def dateOf (year month day : ℕ) : Option Day :=
  let m : ℤ := year * 12 + month - 1
  if 1000 ≤ year ∧ 1 ≤ month ∧ month ≤ 12 ∧ 1 ≤ day ∧ firstDay m + day ≤ firstDay (m + 1) then
    some (firstDay m + day - 1)
  else none

/-- `%Y%m%d`, as `strftime` writes it. -/
def compactDay (cs : List Char) : Option Day :=
  if cs.length = 8 then do dateOf (← digitsOf (cs.take 4)) (← digitsOf ((cs.drop 4).take 2)) (← digitsOf (cs.drop 6))
  else none

/-- `%Y-%m-%d`. -/
def dashedDay (cs : List Char) : Option Day :=
  if cs.length = 10 ∧ cs[4]? = some '-' ∧ cs[7]? = some '-' then do
    dateOf (← digitsOf (cs.take 4)) (← digitsOf ((cs.drop 5).take 2)) (← digitsOf (cs.drop 8))
  else none

def day (value : Option String) : Option Day := do
  let text ← value
  compactDay text.toList <|> dashedDay text.toList

example : day (some "20261102") = some 20759 ∧ day (some "2026-11-02") = some 20759 ∧ day (some "20260230") = none := by
  decide

def timeOf (hour minute second : ℕ) : Option ℕ :=
  if hour < 24 ∧ minute < 60 ∧ second < 60 then some (hour * 3600 + minute * 60 + second) else none

/-- `%H%M%S`, as seconds of the day. -/
def compactTime (cs : List Char) : Option ℕ :=
  if cs.length = 6 then do timeOf (← digitsOf (cs.take 2)) (← digitsOf ((cs.drop 2).take 2)) (← digitsOf (cs.drop 4))
  else none

/-- `%H:%M:%S`. -/
def colonTime (cs : List Char) : Option ℕ :=
  if cs.length = 8 ∧ cs[2]? = some ':' ∧ cs[5]? = some ':' then do
    timeOf (← digitsOf (cs.take 2)) (← digitsOf ((cs.drop 3).take 2)) (← digitsOf (cs.drop 6))
  else none

def stamp (readDay : List Char → Option Day) (size : ℕ) (separator : Char) (readTime : List Char → Option ℕ)
    (cs : List Char) : Option (Day × ℕ) :=
  if cs[size]? = some separator then do pure (← readDay (cs.take size), ← readTime (cs.drop (size + 1))) else none

def stamps : List (List Char → Option (Day × ℕ)) :=
  [stamp compactDay 8 ';' compactTime, stamp compactDay 8 ';' colonTime, stamp dashedDay 10 ';' colonTime,
    stamp dashedDay 10 'T' colonTime]

/-- `_local_time`: the seconds of the day, where the text is a time on the trade date. -/
def localTime (text : String) (tradeDate : Day) : Option ℕ :=
  stamps.findSome? fun read => (read text.toList).bind fun s => if s.1 = tradeDate then some s.2 else none

def number (decimals : ℕ) (value : Option String) : Option Decimal.Plain := do
  let text ← value
  let p ← Decimal.plain text.toList
  if text.length ≤ 64 ∧ p.whole.length ≤ 12 ∧ p.fraction.length ≤ decimals then some p else none

def amountDecimals : ℕ := 8

def feeDecimals : ℕ := 18

/-- `_text`. -/
def isText (value : Option String) (limit : ℕ) : Bool :=
  match value with
  | none => false
  | some text =>
    0 < text.length ∧ text.length ≤ limit ∧ text = Text.strip text ∧
      text.toList.all fun c => ¬ (c.toNat < 32 ∨ c.toNat = 127)

/-- A full match of one character class followed by `least` to `most` characters of another. -/
def matches_ (first rest : Char → Bool) (least most : ℕ) (value : Option String) : Bool :=
  match value.getD "" |>.toList with
  | [] => false
  | c :: cs => first c ∧ cs.all rest ∧ least ≤ cs.length ∧ cs.length ≤ most

/-- `_CURRENCY`. -/
def isCurrency : Option String → Bool := matches_ Text.isCapital (fun c => Text.isCapital c || c.isDigit) 2 9

def isSymbol : Option String → Bool :=
  matches_ (fun c => Text.isCapital c || c.isDigit) (fun c => Text.isCapital c || c.isDigit || c ∈ ". /_-".toList) 0 63

def isAssetCategory : Option String → Bool :=
  matches_ Text.isCapital (fun c => Text.isCapital c || c.isDigit || c = '_') 0 15

def isFlowCurrency : Option String → Bool := matches_ Text.isCapital Text.isCapital 2 2

/-- `value or None`. -/
def present (value : Option String) : Option String := value.filter (· ≠ "")

end IbkrPlatform.Ledger
