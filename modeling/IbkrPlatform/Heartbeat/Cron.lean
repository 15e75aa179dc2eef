import IbkrPlatform.FlexDaily.Calendar
import IbkrPlatform.Library.EarlyExit
import IbkrPlatform.Library.Text
import Mathlib.Algebra.Order.Ring.Int
import Mathlib.Data.List.Dedup
import Mathlib.Tactic.Ring

/-! The two readers of a five-field schedule: the day-of-month shortcut and the minute-by-minute evaluation. -/

namespace IbkrPlatform.Heartbeat.Cron

open FlexDaily FlexDaily.Calendar Library.Text
open Library.EarlyExit (ok_of_bind)

/-- What the readers raise: `int` its `ValueError`, and `ZoneInfo` its own error or another one. -/
inductive Fault | valueError | zoneInfoNotFound | otherZoneError
deriving DecidableEq

def int (text : List Char) : Except Fault ℤ :=
  match integer text with
  | some n => .ok n
  | none => .error .valueError

def range (start stop step : ℤ) : List ℤ :=
  (List.range ((stop - start + step - 1) / step).toNat).map fun n : ℕ => start + step * n

def baseDays (part : List Char) (step : ℤ) : Option (List ℤ) :=
  if '-' ∈ part then do
    let start ← integer (splitOnce '-' part).1
    let stop ← integer (splitOnce '-' part).2
    if start > stop then none else some ((range start (stop + 1) step).filter fun day => 1 ≤ day ∧ day ≤ 31)
  else do
    let day ← integer part
    some (if 1 ≤ day ∧ day ≤ 31 then [day] else [])

/-- The days of one part of the field; `none` where the shortcut gives up. -/
def partDays (raw : List Char) : Option (List ℤ) :=
  let part := stripChars raw
  if part = [] then some []
  else do
    let (base, step) ←
      if '/' ∈ part then (integer (splitOnce '/' part).2).map fun step => ((splitOnce '/' part).1, max 1 step) else some (part, 1)
    baseDays base step

def parseScheduleDayOfMonthField (raw : List Char) : Option (List ℤ) :=
  let text := stripChars raw
  if text = [] ∨ text = ['*'] ∨ text = ['?'] then none
  else
    match (text.splitOn ',').mapM partDays with
    | none => none
    | some parts => if parts.flatten = [] then none else some parts.flatten

structure Scheduler where
  main_time : Option String
  timezone : Option String

/-- `str(value or default)`. -/
def textOr (value : Option String) (default : String) : String :=
  match value with
  | none => default
  | some text => if text = "" then default else text

variable (zoneInfo : String → Except Fault Zone)

def utc : Zone := ⟨fun _ => 0⟩

def dayOfMonth (day : Day) : ℤ := day - firstDay (monthOf day) + 1

def padded (width : ℕ) (n : ℤ) : String :=
  "".pushn '0' (width - (toString n).length) ++ toString n

def isoformat (day : Day) : String :=
  padded 4 (monthOf day / 12) ++ "-" ++ padded 2 (monthOf day % 12 + 1) ++ "-" ++ padded 2 (dayOfMonth day)

def windowZone (scheduler : Scheduler) : Except Fault (String × Zone) :=
  let stripped := strip (textOr scheduler.timezone "UTC")
  let name := if stripped = "" then "UTC" else stripped
  match zoneInfo name with
  | .ok zone => .ok (name, zone)
  | .error .zoneInfoNotFound => .ok ("UTC", utc)
  | .error e => .error e

def dayText (days : List ℤ) : String := ",".intercalate ((days.dedup.mergeSort (· ≤ ·)).map toString)

def schedulerWindowStatus (scheduler : Scheduler) (since now : Instant) : Except Fault (Option (Bool × String)) :=
  match words (stripChars (textOr scheduler.main_time "").toList) with
  | [_, _, field, _, _] =>
    match parseScheduleDayOfMonthField field with
    | none => .ok none
    | some expected => do
      let (name, zone) ← windowZone zoneInfo scheduler
      let due := (days (zone.dateOf since) (zone.dateOf now)).any fun day => dayOfMonth day ∈ expected
      .ok (some (due, name ++ " date_window=" ++ isoformat (zone.dateOf since) ++ ".." ++ isoformat (zone.dateOf now) ++
        "; expected day(s)=" ++ dayText expected))
  | _ => .ok none

def schedulerSkipReasons (since now : Instant) : List (String × Scheduler) → Except Fault (Option (List String))
  | [] => .ok (some [])
  | (service, scheduler) :: rest => do
    match ← schedulerWindowStatus zoneInfo scheduler since now with
    | none => .ok none
    | some (true, _) => .ok none
    | some (false, reason) =>
      let reasons ← schedulerSkipReasons since now rest
      .ok (reasons.map fun later => (service ++ ": " ++ reason) :: later)

def runtimeTargetSchedulerSkipReason (candidates : List (String × Scheduler)) (since now : Instant) : Except Fault (Option String) := do
  match ← schedulerSkipReasons zoneInfo since now candidates with
  | none => .ok none
  | some [] => .ok none
  | some reasons => .ok (some ("runtime target scheduler main_time is not due today (" ++ "; ".intercalate reasons ++ ")"))

def cronTokenValue (token : List Char) (names : List (List Char × ℤ)) : Except Fault ℤ :=
  let normalized := lower (stripChars token)
  match names.lookup normalized with
  | some value => .ok value
  | none => int normalized

def baseValues (minimum maximum : ℤ) (names : List (List Char × ℤ)) (base : List Char) (step : ℤ) : Except Fault (List ℤ) := do
  let (start, stop) ←
    if base = ['*'] then .ok (minimum, maximum)
    else if '-' ∈ base then do
      let start ← cronTokenValue (splitOnce '-' base).1 names
      let stop ← cronTokenValue (splitOnce '-' base).2 names
      .ok (start, stop)
    else do
      let value ← cronTokenValue base names
      .ok (value, value)
  .ok ((range start (stop + 1) step).filterMap fun value =>
    if minimum ≤ value ∧ value ≤ maximum then some value else if maximum = 6 ∧ value = 7 then some 0 else none)

def partValues (minimum maximum : ℤ) (names : List (List Char × ℤ)) (raw : List Char) : Except Fault (List ℤ) :=
  let part := stripChars raw
  if part = [] then .ok []
  else do
    let (base, rawStep) := if '/' ∈ part then splitOnce '/' part else (part, ['1'])
    let step ← int rawStep
    baseValues minimum maximum names base (max 1 step)

/-- The values that a field lists; `none` where it leaves them free. -/
def cronFieldValues (minimum maximum : ℤ) (names : List (List Char × ℤ)) (field : List Char) : Except Fault (Option (List ℤ)) :=
  let text := lower (stripChars field)
  if text = [] ∨ text = ['*'] then .ok none
  else do
    let parts ← (text.splitOn ',').mapM (partValues minimum maximum names)
    .ok (some parts.flatten)

def dowNames : List (List Char × ℤ) :=
  [("sun".toList, 0), ("mon".toList, 1), ("tue".toList, 2), ("wed".toList, 3), ("thu".toList, 4), ("fri".toList, 5), ("sat".toList, 6)]

/-- Microseconds on the local clock since the local epoch. -/
abbrev Wall := ℤ

def Wall.minute (wall : Wall) : ℤ := wall / minutes 1 % 60

def Wall.hour (wall : Wall) : ℤ := wall / hours 1 % 24

def Wall.day (wall : Wall) : ℤ := dayOfMonth (dayOf wall)

def Wall.month (wall : Wall) : ℤ := monthOf (dayOf wall) % 12 + 1

/-- `isoweekday() % 7`; the epoch is a Thursday. -/
def Wall.cronWeekday (wall : Wall) : ℤ := (dayOf wall + 4) % 7

structure Fields where
  minute : Option (List ℤ)
  hour : Option (List ℤ)
  dayOfMonth : Option (List ℤ)
  month : Option (List ℤ)
  dayOfWeek : Option (List ℤ)

def allows (values : Option (List ℤ)) (value : ℤ) : Bool :=
  match values with
  | none => true
  | some values => value ∈ values

def cronFields (minute hour dayOfMonth month dayOfWeek : List Char) : Except Fault Fields := do
  let minuteValues ← cronFieldValues 0 59 [] minute
  let hourValues ← cronFieldValues 0 23 [] hour
  let domValues ← cronFieldValues 1 31 [] dayOfMonth
  let monthValues ← cronFieldValues 1 12 [] month
  let dowValues ← cronFieldValues 0 6 dowNames dayOfWeek
  .ok ⟨minuteValues, hourValues, domValues, monthValues, dowValues⟩

def Fields.timeMatches (fields : Fields) (value : Wall) : Bool :=
  allows fields.minute value.minute && allows fields.hour value.hour && allows fields.month value.month

def Fields.dayMatches (fields : Fields) (value : Wall) : Bool :=
  if fields.dayOfMonth.isSome ∧ fields.dayOfWeek.isSome then
    allows fields.dayOfMonth value.day || allows fields.dayOfWeek value.cronWeekday
  else allows fields.dayOfMonth value.day && allows fields.dayOfWeek value.cronWeekday

def cronMatches (schedule : String) (value : Wall) : Except Fault Bool :=
  match words schedule.toList with
  | [minute, hour, dayOfMonth, month, dayOfWeek] => do
    let fields ← cronFields minute hour dayOfMonth month dayOfWeek
    .ok (fields.timeMatches value && fields.dayMatches value)
  | _ => .ok false

structure Job where
  schedule : Option String
  timeZone : Option String

def jobZone (job : Job) : Zone :=
  match zoneInfo (textOr job.timeZone "UTC") with
  | .ok zone => zone
  | .error _ => utc

def wallAt (zone : Zone) (instant : Instant) : Wall := instant + zone.utcoffset instant

def firstCursor (since : Instant) : Instant :=
  let cursor := since / minutes 1 * minutes 1
  if cursor < since then cursor + minutes 1 else cursor

def wholeMinutes (since now : Instant) : List Instant :=
  (List.range ((now - firstCursor since) / minutes 1 + 1).toNat).map fun n : ℕ => firstCursor since + minutes 1 * n

def dueAt (schedule : String) (zone : Zone) : List Instant → Except Fault Bool
  | [] => .ok false
  | cursor :: later => do
    if ← cronMatches schedule (wallAt zone cursor) then .ok true else dueAt schedule zone later

def schedulerJobDueBetween (job : Job) (since now : Instant) : Except Fault Bool :=
  let schedule := strip (textOr job.schedule "")
  if schedule = "" then .ok false else dueAt schedule (jobZone zoneInfo job) (wholeMinutes since now)

section Readers

variable {raw base : List Char} {values : List ℤ}

lemma range_singleton {step : ℤ} (day : ℤ) (h : 1 ≤ step) : range day (day + 1) step = [day] := by
  have hcount : (day + 1 - day + step - 1) / step = 1 := by
    rw [show day + 1 - day + step - 1 = step by ring, Int.ediv_self (by omega)]
  rw [range, hcount]
  simp

lemma cronTokenValue_lower (token : List Char) : cronTokenValue (lower token) [] = int token := by
  simp only [cronTokenValue, List.lookup_nil, int, integer_lower, integer_stripChars]

lemma integer_star : integer ['*'] = none := by decide

lemma int_of_integer {token : List Char} {n : ℤ} (h : integer token = some n) : int token = .ok n := by
  simp only [int, h]

lemma baseValues_lower {step : ℤ} (hstep : 1 ≤ step) (h : baseDays base step = some values) :
    baseValues 1 31 [] (lower base) step = .ok values := by
  have hstar : lower base ≠ ['*'] := by
    intro hstar
    have hbase : integer base = none := by rw [← integer_lower, hstar, integer_star]
    have hdash : '-' ∉ base := by
      rw [← mem_lower (by decide), hstar]
      decide
    simp [baseDays, hdash, hbase] at h
  unfold baseDays at h
  have hmem : '-' ∈ lower base ↔ '-' ∈ base := mem_lower (by decide) base
  have hsplit : splitOnce '-' (lower base) = (lower (splitOnce '-' base).1, lower (splitOnce '-' base).2) :=
    splitOnce_lower (by decide) base
  simp only [baseValues, if_neg hstar, hmem, hsplit, cronTokenValue_lower]
  have hkeep : ∀ l : List ℤ, l.filterMap (fun value => if 1 ≤ value ∧ value ≤ 31 then some value else
      if (31 : ℤ) = 6 ∧ value = 7 then some 0 else none) = l.filter fun day => 1 ≤ day ∧ day ≤ 31 := by
    intro l
    rw [← List.filterMap_eq_filter]
    congr 1
    funext value
    simp [Option.guard]
  by_cases hdash : '-' ∈ base
  · rw [if_pos hdash] at h ⊢
    obtain ⟨start, hstart, h⟩ := Option.bind_eq_some_iff.mp h
    obtain ⟨stop, hstop, h⟩ := Option.bind_eq_some_iff.mp h
    rw [int_of_integer hstart, int_of_integer hstop]
    split_ifs at h with hle
    rw [← Option.some.inj h]
    exact congrArg _ (hkeep _)
  · rw [if_neg hdash] at h ⊢
    obtain ⟨day, hday, h⟩ := Option.bind_eq_some_iff.mp h
    rw [int_of_integer hday, ← Option.some.inj h]
    refine congrArg _ ((hkeep _).trans ?_)
    rw [range_singleton day hstep]
    simp only [List.filter_cons, List.filter_nil, decide_eq_true_eq]

lemma partValues_lower {part : List Char} (h : partDays part = some values) : partValues 1 31 [] (lower part) = .ok values := by
  unfold partDays at h
  unfold partValues
  simp only [stripChars_lower]
  generalize stripChars part = text at h ⊢
  have hempty : lower text = [] ↔ text = [] := List.map_eq_nil_iff
  have hmem : '/' ∈ lower text ↔ '/' ∈ text := mem_lower (by decide) text
  have hsplit : splitOnce '/' (lower text) = (lower (splitOnce '/' text).1, lower (splitOnce '/' text).2) :=
    splitOnce_lower (by decide) text
  simp only [hempty, hmem, hsplit]
  by_cases hnil : text = []
  · rw [if_pos hnil] at h ⊢
    rw [Option.some.inj h]
  rw [if_neg hnil] at h ⊢
  by_cases hslash : '/' ∈ text
  · rw [if_pos hslash] at h ⊢
    obtain ⟨⟨base, step⟩, hstep, h⟩ := Option.bind_eq_some_iff.mp h
    obtain ⟨n, hn, hpair⟩ := Option.map_eq_some_iff.mp hstep
    obtain ⟨rfl, rfl⟩ := Prod.mk.inj hpair
    have hint : int (lower (splitOnce '/' text).2) = .ok n := by
      rw [int, integer_lower, hn]
    simp only [hint]
    exact baseValues_lower (le_max_left 1 n) h
  · rw [if_neg hslash] at h ⊢
    have hone : int ['1'] = .ok 1 := by decide
    simp only [hone]
    exact baseValues_lower le_rfl h

lemma mapM_partValues {parts : List (List Char)} {values : List (List ℤ)} (h : parts.mapM partDays = some values) :
    (parts.map lower).mapM (partValues 1 31 []) = .ok values := by
  induction parts generalizing values with
  | nil =>
    cases h
    rfl
  | cons part parts ih =>
    rw [List.mapM_cons] at h
    obtain ⟨first, hfirst, h⟩ := Option.bind_eq_some_iff.mp h
    obtain ⟨rest, hrest, h⟩ := Option.bind_eq_some_iff.mp h
    rw [List.map_cons, List.mapM_cons, partValues_lower hfirst, ← Option.some.inj h]
    change (do let r ← (parts.map lower).mapM (partValues 1 31 []); pure (first :: r)) = _
    rw [ih hrest]
    rfl

theorem cronFieldValues_of_days (h : parseScheduleDayOfMonthField raw = some values) :
    cronFieldValues 1 31 [] raw = .ok (some values) := by
  unfold parseScheduleDayOfMonthField at h
  unfold cronFieldValues
  generalize stripChars raw = text at h ⊢
  dsimp only at h ⊢
  split_ifs at h with hfree
  push Not at hfree
  have hlower : ¬ (lower text = [] ∨ lower text = ['*']) := by
    rintro (hnil | hstar)
    · exact hfree.1 (List.map_eq_nil_iff.mp hnil)
    · obtain ⟨c, rfl, hc⟩ := List.map_eq_singleton_iff.mp hstar
      exact hfree.2.1 (by rw [(lowerChar_eq_iff (by decide) c).mp hc])
  split at h
  · cases h
  · rename_i parts hparts
    split_ifs at h
    rw [if_neg hlower, splitOn_lower (by decide), mapM_partValues hparts, ← Option.some.inj h]
    rfl

end Readers

def jobOf (scheduler : Scheduler) : Job := ⟨scheduler.main_time, scheduler.timezone⟩

def CronReads (scheduler : Scheduler) (fields : Fields) : Prop :=
  ∃ minute hour dayOfMonth month dayOfWeek,
    words (stripChars (textOr scheduler.main_time "").toList) = [minute, hour, dayOfMonth, month, dayOfWeek] ∧
      cronFields minute hour dayOfMonth month dayOfWeek = .ok fields

def ShortcutReads (scheduler : Scheduler) (expected : List ℤ) (zone : Zone) : Prop :=
  ∃ minute hour dayOfMonth month dayOfWeek name,
    words (stripChars (textOr scheduler.main_time "").toList) = [minute, hour, dayOfMonth, month, dayOfWeek] ∧
      parseScheduleDayOfMonthField dayOfMonth = some expected ∧ windowZone zoneInfo scheduler = .ok (name, zone)

def Unlisted (expected : List ℤ) (zone : Zone) (since now : Instant) : Prop :=
  ∀ day, zone.dateOf since ≤ day → day ≤ zone.dateOf now → dayOfMonth day ∉ expected

def Unmissed (scheduler : Scheduler) (expected : List ℤ) (zone : Zone) (since now : Instant) (fields : Fields) : Prop :=
  ∀ t ∈ wholeMinutes since now, fields.timeMatches (wallAt (jobZone zoneInfo (jobOf scheduler)) t) →
    ¬ (fields.dayOfWeek.isSome ∧ allows fields.dayOfWeek (Wall.cronWeekday (wallAt (jobZone zoneInfo (jobOf scheduler)) t))) ∧
    (Wall.day (wallAt (jobZone zoneInfo (jobOf scheduler)) t) ∈ expected →
      zone.dateOf since ≤ dayOf (wallAt (jobZone zoneInfo (jobOf scheduler)) t) ∧
        dayOf (wallAt (jobZone zoneInfo (jobOf scheduler)) t) ≤ zone.dateOf now)

def Faithful (scheduler : Scheduler) (since now : Instant) : Prop :=
  ∀ expected zone fields, ShortcutReads zoneInfo scheduler expected zone → CronReads scheduler fields →
    Unlisted expected zone since now → Unmissed zoneInfo scheduler expected zone since now fields

/-- The weekdays are free, both readers resolve the zone alike, and the local dates only go on in the window. -/
def FreeWeekdays (scheduler : Scheduler) (since now : Instant) : Prop :=
  (∀ fields, CronReads scheduler fields → fields.dayOfWeek = none) ∧
    (∃ name, windowZone zoneInfo scheduler = .ok (name, jobZone zoneInfo (jobOf scheduler))) ∧
      ∀ s t, since ≤ s → s ≤ t → t ≤ now →
        (jobZone zoneInfo (jobOf scheduler)).dateOf s ≤ (jobZone zoneInfo (jobOf scheduler)).dateOf t

def Silent (scheduler : Scheduler) (since now : Instant) : Prop :=
  ∃ expected zone, ShortcutReads zoneInfo scheduler expected zone ∧ Unlisted expected zone since now

section Verdicts

variable {zoneInfo : String → Except Fault Zone} {scheduler : Scheduler} {since now : Instant} {fields : Fields}
  {expected : List ℤ} {zone : Zone}

lemma any_days_eq_false : ((days (zone.dateOf since) (zone.dateOf now)).any fun day => dayOfMonth day ∈ expected) = false ↔
    Unlisted expected zone since now := by
  simp only [List.any_eq_false, mem_days, decide_eq_true_eq, and_imp, Unlisted]

lemma schedulerWindowStatus_not_due : (∃ reason, schedulerWindowStatus zoneInfo scheduler since now = .ok (some (false, reason))) ↔
    Silent zoneInfo scheduler since now := by
  constructor
  · rintro ⟨reason, h⟩
    unfold schedulerWindowStatus at h
    split at h
    · rename_i minute hour field month weekday hwords
      cases hdays : parseScheduleDayOfMonthField field with
      | none =>
        rw [hdays] at h
        cases h
      | some expected =>
        rw [hdays] at h
        cases hzone : windowZone zoneInfo scheduler with
        | error e =>
          rw [hzone] at h
          cases h
        | ok named =>
          rw [hzone] at h
          refine ⟨expected, named.2, ⟨minute, hour, field, month, weekday, named.1, hwords, hdays, hzone⟩, ?_⟩
          rw [← any_days_eq_false]
          exact (Prod.mk.inj (Option.some.inj (Except.ok.inj h))).1
    · cases h
  · rintro ⟨expected, zone, ⟨minute, hour, field, month, weekday, name, hwords, hdays, hzone⟩, hunlisted⟩
    rw [← any_days_eq_false] at hunlisted
    simp only [schedulerWindowStatus, hwords, hdays, hzone]
    exact ⟨_, congrArg (fun due => Except.ok (some (due, _))) hunlisted⟩

lemma dueAt_eq {schedule : String} {minute hour dom month dow : List Char}
    (hwords : words schedule.toList = [minute, hour, dom, month, dow]) (hfields : cronFields minute hour dom month dow = .ok fields)
    (ts : List Instant) : dueAt schedule zone ts =
      .ok (ts.any fun t => fields.timeMatches (wallAt zone t) && fields.dayMatches (wallAt zone t)) := by
  induction ts with
  | nil => rfl
  | cons t ts ih =>
    have hmatches : cronMatches schedule (wallAt zone t) =
        .ok (fields.timeMatches (wallAt zone t) && fields.dayMatches (wallAt zone t)) := by
      unfold cronMatches
      rw [hwords]
      simp only [hfields]
      rfl
    rw [dueAt, hmatches, List.any_cons]
    change (if _ then _ else _) = _
    cases fields.timeMatches (wallAt zone t) && fields.dayMatches (wallAt zone t) with
    | true => rfl
    | false => exact ih

lemma dayMatches_iff (h : fields.dayOfMonth = some expected) (wall : Wall) : fields.dayMatches wall ↔
    wall.day ∈ expected ∨ (fields.dayOfWeek.isSome ∧ allows fields.dayOfWeek wall.cronWeekday) := by
  unfold Fields.dayMatches
  rw [h]
  cases fields.dayOfWeek with
  | none => simp [allows]
  | some weekdays => simp [allows]

lemma cronFields_dayOfMonth {minute hour dom month dow : List Char} (h : cronFields minute hour dom month dow = .ok fields) :
    cronFieldValues 1 31 [] dom = .ok fields.dayOfMonth := by
  obtain ⟨_, _, h⟩ := ok_of_bind h
  obtain ⟨_, _, h⟩ := ok_of_bind h
  obtain ⟨domValues, hdom, h⟩ := ok_of_bind h
  obtain ⟨_, _, h⟩ := ok_of_bind h
  obtain ⟨_, _, h⟩ := ok_of_bind h
  rw [hdom, ← Except.ok.inj h]

lemma CronReads.unique {fields' : Fields} (h : CronReads scheduler fields) (h' : CronReads scheduler fields') : fields = fields' := by
  obtain ⟨minute, hour, dom, month, dow, hwords, hfields⟩ := h
  obtain ⟨minute', hour', dom', month', dow', hwords', hfields'⟩ := h'
  rw [hwords] at hwords'
  simp only [List.cons.injEq, and_true] at hwords'
  obtain ⟨rfl, rfl, rfl, rfl, rfl⟩ := hwords'
  exact Except.ok.inj (hfields.symm.trans hfields')

lemma schedulerJobDueBetween_eq_false (hshortcut : ShortcutReads zoneInfo scheduler expected zone) (hcron : CronReads scheduler fields) :
    schedulerJobDueBetween zoneInfo (jobOf scheduler) since now = .ok false ↔
      ∀ t ∈ wholeMinutes since now, fields.timeMatches (wallAt (jobZone zoneInfo (jobOf scheduler)) t) →
        Wall.day (wallAt (jobZone zoneInfo (jobOf scheduler)) t) ∉ expected ∧
          ¬ (fields.dayOfWeek.isSome ∧ allows fields.dayOfWeek (Wall.cronWeekday (wallAt (jobZone zoneInfo (jobOf scheduler)) t))) := by
  obtain ⟨minute, hour, dom, month, dow, name, hwords, hdays, hzone⟩ := hshortcut
  obtain ⟨minute', hour', dom', month', dow', hwords', hfields⟩ := hcron
  rw [hwords] at hwords'
  obtain ⟨rfl, rfl, rfl, rfl, rfl⟩ : minute = minute' ∧ hour = hour' ∧ dom = dom' ∧ month = month' ∧ dow = dow' := by
    simpa using hwords'
  have hexpected : fields.dayOfMonth = some expected :=
    Except.ok.inj ((cronFields_dayOfMonth hfields).symm.trans (cronFieldValues_of_days hdays))
  have hchars : (strip (textOr scheduler.main_time "")).toList = stripChars (textOr scheduler.main_time "").toList := by
    rw [strip, String.toList_ofList]
  have hne : strip (textOr scheduler.main_time "") ≠ "" := by
    intro hnil
    rw [hnil] at hchars
    rw [← hchars] at hwords
    cases hwords
  rw [← hchars] at hwords
  unfold schedulerJobDueBetween
  simp only [jobOf, if_neg hne, dueAt_eq hwords hfields, Except.ok.injEq, List.any_eq_false, Bool.and_eq_true, not_and,
    dayMatches_iff hexpected, not_or]

lemma faithful_iff (hcron : CronReads scheduler fields) :
    (∀ reason, schedulerWindowStatus zoneInfo scheduler since now = .ok (some (false, reason)) →
      schedulerJobDueBetween zoneInfo (jobOf scheduler) since now = .ok false) ↔ Faithful zoneInfo scheduler since now := by
  constructor
  · intro h expected zone fields' hshortcut hcron' hunlisted t ht htime
    obtain ⟨reason, hreason⟩ := schedulerWindowStatus_not_due.mpr ⟨expected, zone, hshortcut, hunlisted⟩
    obtain ⟨hday, hweekday⟩ := (schedulerJobDueBetween_eq_false hshortcut hcron').mp (h reason hreason) t ht htime
    exact ⟨hweekday, fun hlisted => absurd hlisted hday⟩
  · intro h reason hreason
    obtain ⟨expected, zone, hshortcut, hunlisted⟩ := schedulerWindowStatus_not_due.mp ⟨reason, hreason⟩
    refine (schedulerJobDueBetween_eq_false hshortcut hcron).mpr fun t ht htime => ?_
    obtain ⟨hweekday, hdates⟩ := h expected zone fields hshortcut hcron hunlisted t ht htime
    refine ⟨fun hlisted => ?_, hweekday⟩
    obtain ⟨hfrom, hto⟩ := hdates hlisted
    exact hunlisted _ hfrom hto hlisted

lemma schedulerSkipReasons_some {candidates : List (String × Scheduler)} :
    (∃ reasons, schedulerSkipReasons zoneInfo since now candidates = .ok (some reasons)) ↔
      ∀ c ∈ candidates, ∃ reason, schedulerWindowStatus zoneInfo c.2 since now = .ok (some (false, reason)) := by
  induction candidates with
  | nil => exact ⟨fun _ _ h => absurd h List.not_mem_nil, fun _ => ⟨[], rfl⟩⟩
  | cons c rest ih =>
    obtain ⟨service, scheduler⟩ := c
    rw [List.forall_mem_cons, ← ih, schedulerSkipReasons]
    constructor
    · rintro ⟨reasons, h⟩
      obtain ⟨status, hstatus, h⟩ := ok_of_bind h
      rcases status with _ | ⟨_ | _, reason⟩
      · cases h
      · obtain ⟨later, hlater, h⟩ := ok_of_bind h
        cases later with
        | none => cases h
        | some later => exact ⟨⟨reason, hstatus⟩, later, hlater⟩
      · cases h
    · rintro ⟨⟨reason, hreason⟩, later, hlater⟩
      exact ⟨_, by rw [hreason]; change Except.bind _ _ = _; rw [hlater]; rfl⟩

lemma runtimeTargetSchedulerSkipReason_some {candidates : List (String × Scheduler)} :
    (∃ reason, runtimeTargetSchedulerSkipReason zoneInfo candidates since now = .ok (some reason)) ↔
      candidates ≠ [] ∧ ∀ c ∈ candidates, Silent zoneInfo c.2 since now := by
  simp only [← schedulerWindowStatus_not_due, ← schedulerSkipReasons_some]
  constructor
  · rintro ⟨reason, h⟩
    obtain ⟨found, hfound, h⟩ := ok_of_bind h
    rcases found with _ | _ | ⟨first, later⟩
    · cases h
    · cases h
    · refine ⟨fun hnil => ?_, _, hfound⟩
      rw [hnil] at hfound
      cases hfound
  · rintro ⟨hne, reasons, hreasons⟩
    obtain ⟨first, later, rfl⟩ : ∃ first later, reasons = first :: later := by
      refine List.exists_cons_of_ne_nil fun hnil => ?_
      obtain ⟨⟨service, scheduler⟩, rest, rfl⟩ := List.exists_cons_of_ne_nil hne
      obtain ⟨status, _, h⟩ := ok_of_bind hreasons
      rcases status with _ | ⟨_ | _, reason⟩
      · cases h
      · obtain ⟨found, _, h⟩ := ok_of_bind h
        rw [hnil] at h
        cases found <;> cases h
      · cases h
    exact ⟨_, by rw [runtimeTargetSchedulerSkipReason, hreasons]; rfl⟩

lemma le_firstCursor (since : Instant) : since ≤ firstCursor since := by
  have hpos : (0 : ℤ) < minutes 1 := by decide
  unfold firstCursor
  dsimp only
  split_ifs with h
  · have hnext := (Int.lt_ediv_add_one_mul_self since hpos).le
    rwa [add_mul, one_mul] at hnext
  · exact not_lt.mp h

lemma mem_wholeMinutes {t : Instant} (h : t ∈ wholeMinutes since now) : since ≤ t ∧ t ≤ now := by
  have hpos : (0 : ℤ) < minutes 1 := by decide
  simp only [wholeMinutes, List.mem_map, List.mem_range] at h
  obtain ⟨n, hn, rfl⟩ := h
  have hcount : (n : ℤ) ≤ (now - firstCursor since) / minutes 1 := by omega
  have hlast : n * minutes 1 ≤ now - firstCursor since := (Int.le_ediv_iff_mul_le hpos).mp hcount
  constructor
  · exact (le_firstCursor since).trans (le_add_of_nonneg_right (mul_nonneg hpos.le (Int.natCast_nonneg n)))
  · rw [mul_comm]
    exact le_sub_iff_add_le'.mp hlast

lemma faithful_of_free_weekdays (hfree : FreeWeekdays zoneInfo scheduler since now) :
    Faithful zoneInfo scheduler since now := by
  obtain ⟨hdays, ⟨name, hzone⟩, hdates⟩ := hfree
  intro expected zone fields' hshortcut hcron' _ t ht _
  obtain ⟨_, _, _, _, _, name', _, _, hnamed⟩ := hshortcut
  obtain ⟨_, rfl⟩ := Prod.mk.inj (Except.ok.inj (hzone.symm.trans hnamed))
  obtain ⟨hfrom, hto⟩ := mem_wholeMinutes ht
  refine ⟨by simp [hdays fields' hcron'], fun _ => ⟨hdates since t le_rfl hfrom hto, hdates t now hfrom hto le_rfl⟩⟩

/-- The shortcut never hides a run, exactly where both readers agree on the days. -/
theorem day_shortcut_agrees {candidates : List (String × Scheduler)} (hcron : ∃ fields, CronReads scheduler fields)
    (hall : ∀ c ∈ candidates, ∃ fields, CronReads c.2 fields) :
    ((∀ reason, schedulerWindowStatus zoneInfo scheduler since now = .ok (some (false, reason)) →
      schedulerJobDueBetween zoneInfo (jobOf scheduler) since now = .ok false) ↔ Faithful zoneInfo scheduler since now) ∧
    (FreeWeekdays zoneInfo scheduler since now → Faithful zoneInfo scheduler since now) ∧
    ((∀ reason, runtimeTargetSchedulerSkipReason zoneInfo candidates since now = .ok (some reason) →
      ∀ c ∈ candidates, schedulerJobDueBetween zoneInfo (jobOf c.2) since now = .ok false) ↔
        (∃ c ∈ candidates, ¬ Silent zoneInfo c.2 since now) ∨ ∀ c ∈ candidates, Faithful zoneInfo c.2 since now) := by
  obtain ⟨fields, hcron⟩ := hcron
  refine ⟨faithful_iff hcron, faithful_of_free_weekdays, fun h => ?_, fun h reason hreason c hc => ?_⟩
  · by_cases hsilent : ∀ c ∈ candidates, Silent zoneInfo c.2 since now
    · refine .inr fun c hc => ?_
      obtain ⟨reason, hreason⟩ := runtimeTargetSchedulerSkipReason_some.mpr ⟨List.ne_nil_of_mem hc, hsilent⟩
      obtain ⟨fields, hfields⟩ := hall c hc
      exact (faithful_iff hfields).mp fun _ _ => h reason hreason c hc
    · push Not at hsilent
      exact .inl hsilent
  · obtain ⟨_, hsilent⟩ := runtimeTargetSchedulerSkipReason_some.mp ⟨reason, hreason⟩
    rcases h with ⟨d, hd, hloud⟩ | h
    · exact absurd (hsilent d hd) hloud
    · obtain ⟨fields, hfields⟩ := hall c hc
      obtain ⟨status, hstatus⟩ := schedulerWindowStatus_not_due.mpr (hsilent c hc)
      exact (faithful_iff hfields).mpr (h c hc) status hstatus

end Verdicts

section Fixture

def zones₀ : String → Except Fault Zone := fun _ => .ok utc

def monthly : Scheduler := ⟨some "0 9 15 * *", some "UTC"⟩

def monthlyOrMonday : Scheduler := ⟨some "0 9 15 * 1", some "UTC"⟩

def monday : Instant := 19723 * hours 24

theorem day_shortcut_agrees₀ : Faithful zones₀ monthly (monday + hours 8 + minutes 59) (monday + hours 9) := by
  have hreads : ∃ fields, CronReads monthly fields := ⟨⟨some [0], some [9], some [15], none, none⟩, ['0'], ['9'], ['1', '5'], ['*'], ['*'],
    by decide, by rfl⟩
  have hcandidates : ∀ c ∈ [("service", monthly)], ∃ fields, CronReads c.2 fields := by
    intro c hc
    rw [List.mem_singleton.mp hc]
    exact hreads
  refine (day_shortcut_agrees hreads hcandidates).1.mp fun _ _ => ?_
  rfl

theorem weekday_run_suppressed :
    schedulerWindowStatus zones₀ monthlyOrMonday (monday + hours 8 + minutes 59) (monday + hours 9) =
      .ok (some (false, "UTC date_window=2024-01-01..2024-01-01; expected day(s)=15")) ∧
    runtimeTargetSchedulerSkipReason zones₀ [("service", monthlyOrMonday)] (monday + hours 8 + minutes 59) (monday + hours 9) =
      .ok (some "runtime target scheduler main_time is not due today (service: UTC date_window=2024-01-01..2024-01-01; expected day(s)=15)") ∧
    schedulerJobDueBetween zones₀ (jobOf monthlyOrMonday) (monday + hours 8 + minutes 59) (monday + hours 9) = .ok true :=
  ⟨by decide +kernel, by decide +kernel, by decide +kernel⟩

end Fixture

end IbkrPlatform.Heartbeat.Cron
