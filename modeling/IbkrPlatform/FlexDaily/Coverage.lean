import Mathlib.Data.Prod.Lex
import Mathlib.Order.Nat
import IbkrPlatform.FlexDaily.Forward
import IbkrPlatform.Library.OrderedMap

/-! Persistent coverage and its bounded scheduling; all dates are broker dates. -/

namespace IbkrPlatform.FlexDaily.Coverage

open Library Calendar Forward

structure Item where
  status : ItemStatus
  issues : List String
  forwardChecked : Bool
  reconciliation : Option Reconciliation
deriving DecidableEq

def Item.missing : Item := ⟨.missing, [], false, none⟩

structure Slot where
  accounts : List (String × Item)
  attempts : ℕ
  nextAttemptAt : Option Instant
  lastError : Option String
  validatedAt : Option Instant
  forward : Option (List (String × Evidence))
  raw : Option String
  done : Bool

def Slot.empty : Slot := ⟨[], 0, none, none, none, none, none, false⟩

abbrev MonthKey := Month ×ₗ ℕ

structure LastRun where
  windowsPlanned : ℕ
  reportsFetched : ℕ
  windowsSucceeded : ℕ
  windowsFailed : ℕ
  lastProviderErrorCode : Option String

def LastRun.zero : LastRun := ⟨0, 0, 0, 0, none⟩

/-- `state/coverage.json` of a collector in forward mode. -/
structure State where
  days : OrderedMap Day Slot
  months : OrderedMap MonthKey Slot
  forwardTarget : Option Day
  blocked : Option String
  lastRun : LastRun

def State.empty : State := ⟨OrderedMap.empty, OrderedMap.empty, none, none, LastRun.zero⟩

def targetDay (newYork : Zone) (now : Instant) : Day := newYork.dateOf now - 1

def addMissing (items : List (String × Item)) (label : String) : List (String × Item) :=
  if (items.lookup label).isSome then items else items ++ [(label, Item.missing)]

def seedDay (accounts : List String) (days : OrderedMap Day Slot) (day : Day) : OrderedMap Day Slot :=
  (days.insertNew day Slot.empty).modify day fun slot =>
    { slot with accounts := accounts.foldl addMissing slot.accounts }

def seed (state : State) (target : Day) (accounts : List String) : State :=
  { state with days := (Calendar.days forwardStart target).foldl (seedDay accounts) state.days }

def complete (slot : Slot) : Bool :=
  slot.accounts ≠ [] ∧ ∀ item ∈ slot.accounts, item.2.status = .complete

/-- The days of the campaign; `target` is the newest one that the state has been asked for. -/
def inScope (state : State) (day : Day) : Bool :=
  forwardStart ≤ day ∧ ∀ target ∈ state.forwardTarget, day ≤ target

def Slot.reported (slot : Slot) : Slot :=
  { slot with accounts := slot.accounts.map fun item =>
      (item.1, if item.2.forwardChecked then item.2 else { item.2 with status := .missing }) }

def reportingView (state : State) : State :=
  { state with
    days := (state.days.restrict (inScope state)).mapValues fun _ slot => slot.reported
    months := state.months.restrict fun key => inScope state (firstDay (ofLex key).1) }

def due (slot : Slot) (now : Instant) : Bool :=
  ∀ next ∈ slot.nextAttemptAt, next ≤ now

inductive Window
  | daily (day : Day)
  | month (month : Month) (checkpoint : ℕ)
deriving DecidableEq

def Window.start : Window → Day
  | daily day => day
  | month m _ => firstDay m

def Window.stop : Window → Day
  | daily day => day
  | month m _ => firstDay (m + 1) - 1

def recentDays (target : Day) : List Day := (List.range 7).map fun n : ℕ => target - n

def dueDay (view : State) (now : Instant) (day : Day) : Bool :=
  match view.days.get? day with
  | some slot => due slot now
  | none => false

def monthWindows (view : State) (target : Day) (now : Instant) : List Window :=
  let first := if firstDay (monthOf forwardStart) < forwardStart then monthOf forwardStart + 1
    else monthOf forwardStart
  (Calendar.days first (monthOf target - 1)).flatMap fun m =>
    ([3, 10].filter fun checkpoint : ℕ =>
      let slot := (view.months.get? (toLex (m, checkpoint))).getD Slot.empty
      firstDay (m + 1) + (checkpoint - 1 : ℕ) ≤ dayOf now ∧ !slot.done ∧ due slot now).map (.month m)

/-- Recent revisions first, durable monthly controls, then oldest holes. -/
def windows (state : State) (target : Day) (now : Instant) : List Window :=
  let view := reportingView state
  let recent := (recentDays target).filter (dueDay view now)
  let holes := view.days.entries.filter fun e =>
    e.1 ∉ recentDays target ∧ !complete e.2 ∧ due e.2 now
  (recent.map Window.daily ++ monthWindows view target now ++ holes.map fun e => Window.daily e.1).take 30

def failed (slot : Slot) (now : Instant) (reason : String) : Slot :=
  let attempts := slot.attempts + 1
  { slot with
    attempts
    lastError := some reason
    nextAttemptAt := some (now + hours (if 3 ≤ attempts then 24 else 1)) }

section Queue

variable {state : State} {target : Day} {now : Instant}

lemma view_day {day : Day} {slot : Slot} (h : (reportingView state).days.get? day = some slot) :
    inScope state day = true := by
  simp only [reportingView, OrderedMap.get?_mapValues, OrderedMap.get?_restrict] at h
  by_contra hs
  simp [hs] at h

lemma dueDay_inScope {day : Day} (h : dueDay (reportingView state) now day = true) : inScope state day = true := by
  unfold dueDay at h
  split at h
  · rename_i slot hs
    exact view_day hs
  · cases h

lemma recentDays_nodup : (recentDays target).Nodup := by
  refine List.Nodup.map (fun m n h => ?_) List.nodup_range
  exact Int.ofNat.inj (by simpa using h)

lemma monthWindows_nodup : (monthWindows state target now).Nodup := by
  unfold monthWindows
  refine List.nodup_flatMap.mpr ⟨fun m _ => ?_, ?_⟩
  · exact List.Nodup.map (fun j k h => by simpa using h) (List.Nodup.filter _ (by decide))
  · refine (days_nodup _ _).imp fun {m n} hne => ?_
    simp only [Function.onFun, List.disjoint_left, List.mem_map]
    rintro w ⟨j, _, rfl⟩ ⟨k, _, hk⟩
    exact hne (Window.month.inj hk).1.symm

lemma month_of_monthWindows {w : Window} (h : w ∈ monthWindows state target now) : ∃ m k, w = .month m k := by
  simp only [monthWindows, List.mem_flatMap, List.mem_map] at h
  obtain ⟨m, _, k, _, rfl⟩ := h
  exact ⟨m, k, rfl⟩

lemma windows_nodup : (windows state target now).Nodup := by
  have hdaily : Function.Injective Window.daily := fun a b h => Window.daily.inj h
  unfold windows
  extract_lets view recent holes
  have hholes : (holes.map fun e => Window.daily e.1).Nodup := by
    have hkeys : (holes.map Prod.fst).Nodup := view.days.keys_nodup.sublist (List.filter_sublist.map _)
    simpa only [List.map_map, Function.comp_def] using hkeys.map hdaily
  have hrecent : (recent.map Window.daily).Nodup := (recentDays_nodup.filter _).map hdaily
  refine List.Nodup.sublist (List.take_sublist _ _) (List.Nodup.append (hrecent.append monthWindows_nodup ?_) hholes ?_)
  · intro w hw hm
    obtain ⟨day, _, rfl⟩ := List.mem_map.mp hw
    obtain ⟨m, k, h⟩ := month_of_monthWindows hm
    cases h
  · intro w hw hh
    obtain ⟨e, he, rfl⟩ := List.mem_map.mp hh
    rcases List.mem_append.mp hw with hr | hm
    · obtain ⟨day, hday, heq⟩ := List.mem_map.mp hr
      have hnot : e.1 ∉ recentDays target := (of_decide_eq_true (List.mem_filter.mp he).2).1
      exact hnot (Window.daily.inj heq ▸ (List.mem_filter.mp hday).1)
    · obtain ⟨m, k, h⟩ := month_of_monthWindows hm
      cases h

lemma windows_eq_nil (hs : state.forwardTarget = some target) (ht : target < forwardStart) :
    windows state target now = [] := by
  have hscope (day : Day) : inScope state day = false := by
    simp only [inScope, hs, Option.mem_def, Option.some.injEq, forall_eq', decide_eq_false_iff_not, not_and]
    exact fun h => not_le.mpr (ht.trans_le h)
  have hfirst : (if firstDay (monthOf forwardStart) < forwardStart then monthOf forwardStart + 1
      else monthOf forwardStart) = 24323 := by decide
  have hmonths : monthWindows (reportingView state) target now = [] := by
    have hb := monthOf_before_campaign target ht
    rw [monthWindows, hfirst, days_eq_nil (by grind)]
    rfl
  have hview : (reportingView state).days.entries = [] := by
    refine List.eq_nil_iff_forall_not_mem.mpr fun e he => ?_
    have := view_day ((OrderedMap.mem_entries _).mp he)
    simp [hscope] at this
  have hrecent : (recentDays target).filter (dueDay (reportingView state) now) = [] := by
    refine List.filter_eq_nil_iff.mpr fun day _ hd => ?_
    have := dueDay_inScope hd
    simp [hscope] at this
  simp [windows, hmonths, hview, hrecent]

end Queue

end IbkrPlatform.FlexDaily.Coverage
