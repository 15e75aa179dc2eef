import Mathlib.Data.List.Dedup
import IbkrPlatform.Execution.SettledCash
import IbkrPlatform.Library.Dictionary
import IbkrPlatform.Library.SortedList
import IbkrPlatform.Library.Text

/-! The refresh that one reading of settled cash waits for, and what it leaves of the client's settings. -/

namespace IbkrPlatform.Execution.CashRefresh

open Library SettledCash

/-- An account update as an event hands it over; its texts are as `str` reads them. -/
structure Update where
  account : String
  currency : String
  tag : String
  stale : Bool
  asOf : Stamp
  observedAt : Stamp
  value : BrokerValue

/-- An exception that `except Exception` takes, or one that it lets pass. -/
inductive Failure
  | exception
  | interrupt
deriving DecidableEq

/-- The objects that the settings of the client may hold; `float` is `none` where it raises what `_coerce_float` lets pass. -/
structure Objects (O : Type) where
  float : O → Option BrokerValue
  ofRat : ℚ → O
  false : O
  true : O

structure Sdk (O H : Type) where
  handlers : List H
  requestTimeout : Option O
  raiseRequestErrors : Option O
deriving DecidableEq

structure Refreshed (O H : Type) where
  updates : List (Update × ℚ)
  failure : Option Failure
  sdk : Sdk O H

structure Clock where
  started : ℚ
  completed : ℚ
  now : ℚ

structure Ib (O H : Type) where
  callable : Bool
  sdk : Sdk O H
  /-- The account texts of `accountValues()`. -/
  cached : Except Failure (List String)
  refresh : String → Sdk O H → Refreshed O H
  clock : Clock

structure Outcome (O H : Type) where
  answer : Except Unit (Option ℚ)
  sdk : Sdk O H
deriving DecidableEq

/-- `SETTLED_CASH_REFRESH_TIMEOUT_SECONDS`. -/
def refreshTimeout : ℚ := 10

section Rows

variable (beyond : Char → List Char) (clock : Clock)

def distinct (texts : List String) : List String := ((texts.map Text.strip).filter (· ≠ "")).eraseDups

def within (age : ℚ) : Bool := 0 ≤ age ∧ age ≤ maxAge

def matchesAccount (account : Option String) (selected : List String) : Bool :=
  selected = [] ∨ Text.strip (account.getD "") ∈ selected

/-- The value of a row of the account, unless it or its stamps are stale. -/
def evidence (row : Update) (received : ℚ) : Option ℚ :=
  if !within (clock.completed - received) then none
  else if row.stale then none
  else if !fresh clock.now row.asOf ∨ !fresh clock.now row.observedAt then none
  else match row.value with
    | .finite value => some value
    | _ => none

/-- An update of the loop: `none` ends it, `some none` skips the row. -/
def readUpdate (currency : String) (selected : List String) (row : Update) (received : ℚ) : Option (Option (String × ℚ)) :=
  let account := if Text.strip row.account = "" then none else some (Text.strip row.account)
  if Text.upper beyond (Text.strip row.currency) ≠ Text.upper beyond currency then some none
  else if !matchesAccount account selected then some none
  else if Text.strip row.tag ≠ "SettledCash" then some none
  else match account with
    | none => none
    | some account =>
      if selected ≠ [] ∧ account ∉ selected then none
      else (evidence clock row received).map fun value => some (account, value)

def amounts (read : Update × ℚ → Option (Option (String × ℚ))) : List (String × ℚ) → List (Update × ℚ) → Option (List (String × ℚ))
  | held, [] => some held
  | held, row :: rows => match read row with
    | none => none
    | some none => amounts read held rows
    | some (some (account, value)) =>
      if held.lookup account ≠ none ∧ held.lookup account ≠ some value then none
      else amounts read (Dictionary.put account value held) rows

def total (selected : List String) (held : List (String × ℚ)) : Option ℚ :=
  let accounts := held.map Prod.fst
  if held = [] ∨ selected ≠ [] ∧ ¬ (accounts ⊆ selected ∧ selected ⊆ accounts) then none else some (held.map Prod.snd).sum

def readUpdates (currency : String) (selected : List String) (rows : List (Update × ℚ)) : Option ℚ :=
  if !within (clock.completed - clock.started) then none
  else (amounts (fun row => readUpdate beyond clock currency selected row.1 row.2) [] rows).bind (total selected)

end Rows

section Refresh

variable {O H : Type} (objects : Objects O) (beyond : Char → List Char) (observe : H) (ib : Ib O H) (currency : String)
  (accountIds : List String)

def selection : Except Failure (List String) :=
  if distinct accountIds = [] then ib.cached.map distinct else .ok (distinct accountIds)

def originalTimeout (sdk : Sdk O H) : O := sdk.requestTimeout.getD (objects.ofRat 0)

def originalRaiseErrors (sdk : Sdk O H) : O := sdk.raiseRequestErrors.getD objects.false

def boundedTimeout : BrokerValue → ℚ
  | .finite timeout => if 0 < timeout then min timeout refreshTimeout else refreshTimeout
  | _ => refreshTimeout

def prepared (timeout : BrokerValue) : Sdk O H :=
  ⟨ib.sdk.handlers ++ [observe], some (objects.ofRat (boundedTimeout timeout)), some objects.true⟩

/-- The body of the `try`, with what it leaves of the client; a raised exception is an error. -/
def attempt : Except Failure (Option ℚ) × Sdk O H :=
  match selection ib accountIds with
  | .error failure => (.error failure, ib.sdk)
  | .ok [account] => match objects.float (originalTimeout objects ib.sdk) with
    | none => (.error .exception, ib.sdk)
    | some timeout =>
      let refreshed := ib.refresh account (prepared objects observe ib timeout)
      match refreshed.failure with
      | some failure => (.error failure, refreshed.sdk)
      | none => (.ok (readUpdates beyond ib.clock currency [account] refreshed.updates), refreshed.sdk)
  | .ok _ => (.ok none, ib.sdk)

/-- The `except` clause. -/
def excepted : Except Failure (Option ℚ) → Except Unit (Option ℚ)
  | .ok answer => .ok answer
  | .error .exception => .ok none
  | .error .interrupt => .error ()

variable [DecidableEq H]

/-- The `finally` clause. -/
def restored (sdk : Sdk O H) : Sdk O H :=
  ⟨sdk.handlers.filter (· ≠ observe), some (originalTimeout objects ib.sdk), some (originalRaiseErrors objects ib.sdk)⟩

/-- `_settled_cash_for_currency`; `observe` is the closure that it connects. -/
def settledCashForCurrency : Outcome O H :=
  if !ib.callable then ⟨.ok none, ib.sdk⟩
  else
    let (answer, sdk) := attempt objects beyond observe ib currency accountIds
    ⟨excepted answer, restored objects observe ib sdk⟩

end Refresh

section Evidence

variable {beyond : Char → List Char} {clock : Clock} {currency account : String} {row : Update} {received value : ℚ}

def Concerns (beyond : Char → List Char) (currency account : String) (row : Update) : Prop :=
  Text.upper beyond (Text.strip row.currency) = Text.upper beyond currency ∧ Text.strip row.account = account ∧
    Text.strip row.tag = "SettledCash"

structure Evidence (clock : Clock) (value : ℚ) (row : Update) (received : ℚ) : Prop where
  recent : within (clock.completed - received) = true
  current : row.stale = false
  asOf : fresh clock.now row.asOf = true
  observedAt : fresh clock.now row.observedAt = true
  value : row.value = .finite value

lemma evidence_eq_some_iff : evidence clock row received = some value ↔ Evidence clock value row received := by
  have hiff : Evidence clock value row received ↔ within (clock.completed - received) = true ∧ row.stale = false ∧
      (fresh clock.now row.asOf = true ∧ fresh clock.now row.observedAt = true) ∧ row.value = .finite value :=
    ⟨fun h => ⟨h.recent, h.current, ⟨h.asOf, h.observedAt⟩, h.value⟩, fun h => ⟨h.1, h.2.1, h.2.2.1.1, h.2.2.1.2, h.2.2.2⟩⟩
  rw [hiff]
  unfold evidence
  cases within (clock.completed - received) with
  | false => simp
  | true =>
    cases row.stale with
    | true => simp
    | false =>
      cases fresh clock.now row.asOf with
      | false => simp
      | true =>
        cases fresh clock.now row.observedAt with
        | false => simp
        | true => cases row.value <;> simp

lemma matchesAccount_iff (text : String) :
    matchesAccount (if Text.strip text = "" then none else some (Text.strip text)) [account] = true ↔ Text.strip text = account := by
  have hread : Text.strip ((if Text.strip text = "" then none else some (Text.strip text)).getD "") = Text.strip text := by
    split_ifs with h
    · rw [h]
      rfl
    · exact Text.strip_strip text
  rw [matchesAccount, hread]
  simp

lemma readUpdate_skips (h : ¬ Concerns beyond currency account row) :
    readUpdate beyond clock currency [account] row received = some none := by
  unfold readUpdate
  extract_lets read
  by_cases hcurrency : Text.upper beyond (Text.strip row.currency) = Text.upper beyond currency
  · rw [if_neg (not_not.mpr hcurrency)]
    by_cases hname : Text.strip row.account = account
    · have htag : Text.strip row.tag ≠ "SettledCash" := fun htag => h ⟨hcurrency, hname, htag⟩
      rw [if_pos htag, ite_self]
    · have hmatch : matchesAccount read [account] = false := Bool.eq_false_iff.mpr (mt (matchesAccount_iff _).mp hname)
      rw [hmatch]
      rfl
  · exact if_pos hcurrency

lemma readUpdate_concerns (haccount : account ≠ "") (h : Concerns beyond currency account row) :
    readUpdate beyond clock currency [account] row received = (evidence clock row received).map fun value => some (account, value) := by
  obtain ⟨hcurrency, hname, htag⟩ := h
  have hmatch := (matchesAccount_iff row.account).mpr hname
  unfold readUpdate
  rw [hname, if_neg haccount] at hmatch ⊢
  simp [hcurrency, hmatch, htag]

end Evidence

section Loop

variable {read : Update × ℚ → Option (Option (String × ℚ))} {account : String} {value : ℚ} {rows : List (Update × ℚ)}
  {held : List (String × ℚ)}

lemma amounts_held (hread : ∀ row ∈ rows, ∀ p, read row = some (some p) → p.1 = account) :
    amounts read [(account, value)] rows = some held ↔
      held = [(account, value)] ∧ ∀ row ∈ rows, read row = some none ∨ read row = some (some (account, value)) := by
  induction rows with
  | nil => simp [amounts, eq_comm]
  | cons row rows ih =>
    rw [List.forall_mem_cons] at hread
    rw [List.forall_mem_cons]
    have ih := ih hread.2
    cases hrow : read row with
    | none => simp [amounts, hrow]
    | some entry =>
      cases entry with
      | none => simp [amounts, hrow, ih]
      | some p =>
        obtain ⟨name, amount⟩ := p
        obtain rfl : name = account := hread.1 _ hrow
        by_cases hsame : value = amount
        · subst hsame
          simp [amounts, hrow, Dictionary.put_of_lookup, ih]
        · simp [amounts, hrow, hsame, Ne.symm hsame]

lemma amounts_nil (hread : ∀ row ∈ rows, ∀ p, read row = some (some p) → p.1 = account) :
    amounts read [] rows = some held ↔
      held = [] ∧ (∀ row ∈ rows, read row = some none) ∨
        ∃ value, held = [(account, value)] ∧ (∃ row ∈ rows, read row = some (some (account, value))) ∧
          ∀ row ∈ rows, read row = some none ∨ read row = some (some (account, value)) := by
  induction rows with
  | nil => simp [amounts, eq_comm]
  | cons row rows ih =>
    rw [List.forall_mem_cons] at hread
    have ih := ih hread.2
    cases hrow : read row with
    | none => simp [amounts, hrow]
    | some entry =>
      cases entry with
      | none => simp [amounts, hrow, ih]
      | some p =>
        obtain ⟨name, amount⟩ := p
        obtain rfl : name = account := hread.1 _ hrow
        have hput : Dictionary.put name amount [] = [(name, amount)] := rfl
        simp only [amounts, hrow, List.lookup_nil, ne_eq, not_true_eq_false, false_and, if_false, hput, amounts_held hread.2]
        constructor
        · rintro ⟨rfl, hall⟩
          exact .inr ⟨amount, rfl, ⟨row, List.mem_cons_self, hrow⟩, List.forall_mem_cons.mpr ⟨.inr hrow, hall⟩⟩
        · rintro (⟨-, hall⟩ | ⟨value, rfl, -, hall⟩)
          · have hskipped := (List.forall_mem_cons.mp hall).1
            rw [hrow] at hskipped
            cases hskipped
          · obtain ⟨hhead, hall⟩ := List.forall_mem_cons.mp hall
            rw [hrow] at hhead
            obtain rfl : amount = value := by simpa using hhead
            exact ⟨rfl, hall⟩

end Loop

section Reading

variable {beyond : Char → List Char} {clock : Clock} {currency account : String} {rows : List (Update × ℚ)} {value : ℚ}

structure Settled (beyond : Char → List Char) (clock : Clock) (currency account : String) (rows : List (Update × ℚ)) (value : ℚ) :
    Prop where
  bounded : within (clock.completed - clock.started) = true
  received : ∃ row ∈ rows, Concerns beyond currency account row.1
  all : ∀ row ∈ rows, Concerns beyond currency account row.1 → Evidence clock value row.1 row.2

lemma readUpdate_eq_iff (haccount : account ≠ "") (row : Update × ℚ) :
    (readUpdate beyond clock currency [account] row.1 row.2 = some none ∨
        readUpdate beyond clock currency [account] row.1 row.2 = some (some (account, value))) ↔
      (Concerns beyond currency account row.1 → Evidence clock value row.1 row.2) := by
  by_cases h : Concerns beyond currency account row.1
  · rw [readUpdate_concerns haccount h, ← evidence_eq_some_iff]
    cases evidence clock row.1 row.2 <;> simp [h]
  · rw [readUpdate_skips h]
    exact ⟨fun _ hc => absurd hc h, fun _ => .inl rfl⟩

lemma total_single : total [account] [(account, value)] = some value := by
  simp [total]

lemma readUpdates_eq_some_iff (haccount : account ≠ "") :
    readUpdates beyond clock currency [account] rows = some value ↔ Settled beyond clock currency account rows value := by
  have hread : ∀ row ∈ rows, ∀ p, readUpdate beyond clock currency [account] row.1 row.2 = some (some p) → p.1 = account := by
    intro row _ p hp
    by_cases h : Concerns beyond currency account row.1
    · rw [readUpdate_concerns haccount h] at hp
      obtain ⟨v, -, hp⟩ := Option.map_eq_some_iff.mp hp
      rw [← Option.some.inj hp]
    · rw [readUpdate_skips h] at hp
      cases hp
  have hsome (row : Update × ℚ) (v : ℚ) (h : readUpdate beyond clock currency [account] row.1 row.2 = some (some (account, v))) :
      Concerns beyond currency account row.1 := by
    by_contra hnot
    rw [readUpdate_skips hnot] at h
    cases h
  unfold readUpdates
  cases hbounded : within (clock.completed - clock.started) with
  | false => exact ⟨fun h => (nomatch h), fun h => absurd (h.bounded.symm.trans hbounded) Bool.noConfusion⟩
  | true =>
    rw [Bool.not_true, if_neg Bool.false_ne_true, Option.bind_eq_some_iff]
    simp only [amounts_nil hread]
    constructor
    · rintro ⟨held, ⟨rfl, -⟩ | ⟨v, rfl, ⟨row, hrow, hv⟩, hall⟩, htotal⟩
      · cases htotal
      · obtain rfl : v = value := Option.some.inj (total_single.symm.trans htotal)
        exact ⟨hbounded, ⟨row, hrow, hsome row v hv⟩, fun row hrow => (readUpdate_eq_iff haccount row).mp (hall row hrow)⟩
    · rintro ⟨-, ⟨row, hrow, hconcerns⟩, hall⟩
      have hevidence : readUpdate beyond clock currency [account] row.1 row.2 = some (some (account, value)) := by
        rw [readUpdate_concerns haccount hconcerns, evidence_eq_some_iff.mpr (hall row hrow hconcerns)]
        rfl
      exact ⟨[(account, value)], .inr ⟨value, rfl, ⟨row, hrow, hevidence⟩,
        fun row hrow => (readUpdate_eq_iff haccount row).mpr (hall row hrow)⟩, total_single⟩

end Reading

section Selection

lemma ne_empty_of_distinct {texts : List String} {text : String} (h : text ∈ distinct texts) : text ≠ "" := by
  rw [distinct, List.mem_eraseDups] at h
  simpa using (List.mem_filter.mp h).2

lemma distinct_singleton_congr {texts texts' : List String} (h : ∀ a, a ∈ distinct texts ↔ a ∈ distinct texts') {account : String}
    (hone : distinct texts = [account]) : distinct texts' = [account] := by
  have hperm : (distinct texts).Perm (distinct texts') :=
    (List.perm_ext_iff_of_nodup (SortedList.nodup_eraseDups _) (SortedList.nodup_eraseDups _)).mpr h
  rw [hone] at hperm
  exact List.perm_singleton.mp hperm.symm

end Selection

section Outcome

variable {O H : Type} {objects : Objects O} {beyond : Char → List Char} {observe : H} {ib : Ib O H} {currency : String}
  {accountIds : List String}

lemma ne_empty_of_selection {selected : List String} (h : selection ib accountIds = .ok selected) {account : String}
    (hmem : account ∈ selected) : account ≠ "" := by
  unfold selection at h
  split_ifs at h with hnone
  · cases hcached : ib.cached with
    | error failure =>
      rw [hcached] at h
      cases h
    | ok names =>
      rw [hcached] at h
      obtain rfl : distinct names = selected := Except.ok.inj h
      exact ne_empty_of_distinct hmem
  · obtain rfl : distinct accountIds = selected := Except.ok.inj h
    exact ne_empty_of_distinct hmem

lemma attempt_eq_some_iff {value : ℚ} :
    (attempt objects beyond observe ib currency accountIds).1 = .ok (some value) ↔
      ∃ account timeout, selection ib accountIds = .ok [account] ∧ objects.float (originalTimeout objects ib.sdk) = some timeout ∧
        (ib.refresh account (prepared objects observe ib timeout)).failure = none ∧
        Settled beyond ib.clock currency account (ib.refresh account (prepared objects observe ib timeout)).updates value := by
  unfold attempt
  split
  · next failure h => simp [h]
  · next account h =>
    have haccount : account ≠ "" := ne_empty_of_selection h List.mem_cons_self
    split
    · next htimeout => simp [htimeout]
    · next timeout htimeout =>
      extract_lets refreshed
      have hiff : (∃ account' timeout', selection ib accountIds = .ok [account'] ∧
          objects.float (originalTimeout objects ib.sdk) = some timeout' ∧
          (ib.refresh account' (prepared objects observe ib timeout')).failure = none ∧
          Settled beyond ib.clock currency account' (ib.refresh account' (prepared objects observe ib timeout')).updates value) ↔
          refreshed.failure = none ∧ Settled beyond ib.clock currency account refreshed.updates value := by
        simp [h, htimeout, refreshed]
      rw [hiff]
      split
      · next failure hfailure => simp [hfailure]
      · next hfailure =>
        rw [← readUpdates_eq_some_iff haccount]
        simp [hfailure]
  · next selected hmany h =>
    refine ⟨fun heq => (nomatch heq), fun ⟨account, timeout, hone, _⟩ => ?_⟩
    exact absurd (Except.ok.inj (h.symm.trans hone)) (hmany account)

lemma excepted_eq_some_iff {answer : Except Failure (Option ℚ)} {value : ℚ} :
    excepted answer = .ok (some value) ↔ answer = .ok (some value) := by
  rcases answer with (_ | _) | answer <;> simp [excepted]

def SameAccounts (cached cached' : Except Failure (List String)) : Prop :=
  ∃ names names', cached = .ok names ∧ cached' = .ok names' ∧ ∀ a, a ∈ distinct names ↔ a ∈ distinct names'

lemma attempt_of_selection {cached : Except Failure (List String)}
    (h : selection { ib with cached := cached } accountIds = selection ib accountIds) :
    attempt objects beyond observe { ib with cached := cached } currency accountIds =
      attempt objects beyond observe ib currency accountIds := by
  unfold attempt
  rw [h]
  rfl

lemma attempt_of_several {selected : List String} (h : selection ib accountIds = .ok selected) (hmany : ∀ a, selected ≠ [a]) :
    attempt objects beyond observe ib currency accountIds = (.ok none, ib.sdk) := by
  unfold attempt
  split
  · next failure hfailure => cases h.symm.trans hfailure
  · next account hone => exact absurd (Except.ok.inj (h.symm.trans hone)) (hmany account)
  · rfl

lemma attempt_congr {cached : Except Failure (List String)} (h : distinct accountIds ≠ [] ∨ SameAccounts ib.cached cached) :
    attempt objects beyond observe { ib with cached := cached } currency accountIds =
      attempt objects beyond observe ib currency accountIds := by
  by_cases hnone : distinct accountIds = []
  · obtain ⟨names, names', hnames, hnames', hsame⟩ := h.resolve_left (not_not.mpr hnone)
    have hselected : selection ib accountIds = .ok (distinct names) := by
      rw [selection, if_pos hnone, hnames]
      rfl
    have hselected' : selection { ib with cached := cached } accountIds = .ok (distinct names') := by
      rw [selection, if_pos hnone, hnames']
      rfl
    by_cases hone : ∃ account, distinct names = [account]
    · obtain ⟨account, hone⟩ := hone
      refine attempt_of_selection ?_
      rw [hselected, hselected', hone, distinct_singleton_congr hsame hone]
    · have hmany : ∀ a, distinct names ≠ [a] := fun a ha => hone ⟨a, ha⟩
      have hmany' : ∀ a, distinct names' ≠ [a] := fun a ha => hone ⟨a, distinct_singleton_congr (fun b => (hsame b).symm) ha⟩
      rw [attempt_of_several hselected hmany, attempt_of_several hselected' hmany']
  · refine attempt_of_selection ?_
    rw [selection, selection, if_neg hnone, if_neg hnone]

variable [DecidableEq H]

lemma settled_of_callable (h : ib.callable = true) :
    settledCashForCurrency objects beyond observe ib currency accountIds =
      ⟨excepted (attempt objects beyond observe ib currency accountIds).1,
        restored objects observe ib (attempt objects beyond observe ib currency accountIds).2⟩ := by
  rw [settledCashForCurrency, h]
  rfl

lemma settled_of_not_callable (h : ¬ ib.callable = true) :
    settledCashForCurrency objects beyond observe ib currency accountIds = ⟨.ok none, ib.sdk⟩ := by
  rw [settledCashForCurrency, Bool.eq_false_iff.mpr h]
  rfl

/-- A reading has a value exactly where one account was selected and its refresh was settled. -/
theorem settled_cash_refreshed (hnew : observe ∉ ib.sdk.handlers) :
    let run := settledCashForCurrency objects beyond observe ib currency accountIds
    (∀ value, run.answer = .ok (some value) ↔ ib.callable = true ∧ ∃ account timeout,
      selection ib accountIds = .ok [account] ∧ objects.float (originalTimeout objects ib.sdk) = some timeout ∧
      (ib.refresh account (prepared objects observe ib timeout)).failure = none ∧
      Settled beyond ib.clock currency account (ib.refresh account (prepared objects observe ib timeout)).updates value) ∧
    (observe ∉ run.sdk.handlers ∧ originalTimeout objects run.sdk = originalTimeout objects ib.sdk ∧
      originalRaiseErrors objects run.sdk = originalRaiseErrors objects ib.sdk) ∧
    ∀ cached, distinct accountIds ≠ [] ∨ SameAccounts ib.cached cached →
      settledCashForCurrency objects beyond observe { ib with cached := cached } currency accountIds = run := by
  intro run
  by_cases hcallable : ib.callable = true
  · have hsame : run = _ := settled_of_callable hcallable
    refine ⟨fun value => ?_, ?_, fun cached h => ?_⟩
    · rw [hsame, excepted_eq_some_iff, attempt_eq_some_iff]
      exact ⟨fun h => ⟨hcallable, h⟩, fun h => h.2⟩
    · rw [hsame]
      exact ⟨fun h => absurd rfl (of_decide_eq_true (List.mem_filter.mp h).2), rfl, rfl⟩
    · have hother : settledCashForCurrency objects beyond observe { ib with cached := cached } currency accountIds = _ :=
        settled_of_callable hcallable
      rw [hother, hsame, attempt_congr h]
      rfl
  · have hsame : run = _ := settled_of_not_callable hcallable
    refine ⟨fun value => ?_, ?_, fun cached _ => ?_⟩
    · rw [hsame]
      exact ⟨fun h => (nomatch h), fun h => absurd h.1 hcallable⟩
    · rw [hsame]
      exact ⟨hnew, rfl, rfl⟩
    · rw [hsame]
      exact settled_of_not_callable hcallable

end Outcome

section Caches

def numbers : Objects ℚ := ⟨fun q => some (.finite q), id, 0, 1⟩

def update (account : String) (value : ℚ) : Update := ⟨account, "usd ", "SettledCash", false, none, some (some 990), .finite value⟩

def ib₀ (cached : String) : Ib ℚ Bool where
  callable := true
  sdk := ⟨[false], some 4, some 0⟩
  cached := .ok [cached, " "]
  refresh account sdk := ⟨[(update account (if account = "A" then 100 else 200), 5)], none, sdk⟩
  clock := ⟨3, 6, 1000⟩

theorem settled_cash_refreshed_sample :
    Settled (fun c => [c]) (ib₀ "A").clock "USD" "A" [(update "A" 100, 5)] 100 ∧
      true ∉ (settledCashForCurrency numbers (fun c => [c]) true (ib₀ "A") "USD" []).sdk.handlers := by
  have hnew : true ∉ (ib₀ "A").sdk.handlers := by decide
  have hanswer : (settledCashForCurrency numbers (fun c => [c]) true (ib₀ "A") "USD" []).answer = .ok (some 100) := by
    decide +kernel
  have h := @settled_cash_refreshed ℚ Bool numbers (fun c => [c]) true (ib₀ "A") "USD" [] _ hnew
  obtain ⟨-, account, timeout, hone, -, -, hsettled⟩ := (h.1 100).mp hanswer
  have haccount : account = "A" := by
    have hselected : selection (ib₀ "A") [] = .ok ["A"] := by decide
    simpa using (Except.ok.inj (hselected.symm.trans hone)).symm
  subst haccount
  exact ⟨hsettled, h.2.1.1⟩

theorem cache_names_account :
    (settledCashForCurrency numbers (fun c => [c]) true (ib₀ "A") "USD" []).answer = .ok (some 100) ∧
      (settledCashForCurrency numbers (fun c => [c]) true (ib₀ "B") "USD" []).answer = .ok (some 200) := by
  decide +kernel

end Caches

end IbkrPlatform.Execution.CashRefresh
