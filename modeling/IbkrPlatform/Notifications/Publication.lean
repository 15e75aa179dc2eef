import Mathlib.Logic.Function.Basic
import IbkrPlatform.Library.Transition
import IbkrPlatform.Library.VersionedCell
import IbkrPlatform.Notifications.Projection

/-! Concurrent calls that persist candidates: one conditional write of the state, and another of the payload. -/

namespace IbkrPlatform.Notifications.Publication

open Library Settlement

structure Published where
  notificationScope : Option String
  notificationRevision : ℕ
  payload : Payload

structure Call where
  request : Request
  slot : String

structure ObjectKey where
  platformId : String
  businessDay : String
  slot : String
deriving DecidableEq

def Call.scope (c : Call) : Scope := c.request.fact.scope

def Call.objectKey (c : Call) : ObjectKey := ⟨c.scope.platformId, c.scope.businessDay, c.slot⟩

def isSlotStart (c : Char) : Bool := 'a' ≤ c ∧ c ≤ 'z' ∨ '0' ≤ c ∧ c ≤ '9'

def slotValid (slot : String) : Bool :=
  match slot.toList with
  | [] => false
  | c :: cs => isSlotStart c ∧ cs.length ≤ 40 ∧ cs.all fun d => isSlotStart d ∨ d = '_' ∨ d = '-'

inductive Phase
  | idle
  | reading (record : Item) (seen : List Item) (tries : ℕ)
  | writing (record : Item) (seen : List Item) (tries held : ℕ) (ledger : Ledger)
  | loading (revision : ℕ) (payload : Payload) (tries : ℕ)
  | uploading (revision : ℕ) (payload : Payload) (tries held : ℕ)
  | returned (revision : ℕ)
  | raised
deriving DecidableEq

inductive Action
  | start
  | read
  | write (delivery : Delivery) (gap : ℕ)
  | load (missed : Bool)
  | upload (delivery : Delivery) (gap : ℕ)
  | fail

variable {I : Type}

variable (I) in
structure State where
  states : String → VersionedCell Ledger I
  objects : ObjectKey → VersionedCell Published I
  phase : I → Phase
  commits : List (I × List Item)

variable [DecidableEq I]

def State.goto (s : State I) (i : I) (phase : Phase) : State I := { s with phase := Function.update s.phase i phase }

section Code

variable (texts : Texts) (digest : Scope → String)

def tryLimit : ℕ := 8

def publishing (ledger : Ledger) : Phase :=
  match projectNotificationEvents texts ledger.items with
  | .error _ => .raised
  | .ok payload => .loading ledger.revision payload tryLimit

def slotAccepts (identity : Scope) (p : Published) : Bool :=
  p.notificationScope = some (digest identity) ∨ p.payload.runs ≠ [] ∧ p.payload.runs.all (·.scope = identity)

/-- One turn of `publish` up to its write; a download of a generation that is no longer there is a `NotFound` as well. -/
def loadObject (revision : ℕ) (payload : Payload) (object : VersionedCell Published I) (missed : Bool) : ℕ → Phase
  | 0 => .raised
  | tries + 1 =>
    match payload.runs with
    | [] => .raised
    | first :: _ =>
      match object.value with
      | none => .uploading revision payload tries object.generation
      | some p =>
        if p.notificationScope ≠ some (digest first.scope) ∧ missed then .uploading revision payload tries 0
        else if !slotAccepts digest first.scope p then .raised
        else if revision ≤ p.notificationRevision then .returned revision
        else .uploading revision payload tries object.generation

def upload (revision : ℕ) (payload : Payload) : Published :=
  ⟨payload.runs.head?.map fun first => digest first.scope, revision, payload⟩

def meet (q : Request) (seen : List Item) (old : Option Ledger) : List Item :=
  seen ++ ((old.getD .empty).events.lookup q.fact.dedupeKey).toList

variable (calls : I → Call)

def step (s : State I) (l : I × Action) : Option (State I) :=
  let i := l.1
  let q := (calls i).request
  let key := digest (calls i).scope
  let object := (calls i).objectKey
  match s.phase i, l.2 with
  | .idle, .start =>
    match q.admitted with
    | .error _ => some (s.goto i .raised)
    | .ok () => some (s.goto i (if slotValid (calls i).slot then .reading q.record [] tryLimit else .raised))
  | .reading _ _ 0, .read => some (s.goto i .raised)
  | .reading record seen (tries + 1), .read =>
    let cell := s.states key
    match turn q record cell.value with
    | .error _ => some (s.goto i .raised)
    | .ok t =>
      let seen := meet q seen cell.value
      if t.changed then some (s.goto i (.writing t.record seen tries cell.generation t.ledger))
      else some { s.goto i (publishing texts t.ledger) with commits := s.commits ++ [(i, seen)] }
  | .writing record seen tries held ledger, .write delivery gap =>
    let cell := s.states key
    let sent := cell.send delivery i ledger.decoded held gap
    some { s.goto i (VersionedCell.afterSend sent.2 delivery (publishing texts ledger) (.reading record seen tries) .raised) with
      states := Function.update s.states key sent.1
      commits := if sent.1.writes = cell.writes then s.commits else s.commits ++ [(i, seen)] }
  | .loading revision payload tries, .load missed =>
    some (s.goto i (loadObject digest revision payload (s.objects object) missed tries))
  | .uploading revision payload tries held, .upload delivery gap =>
    let sent := (s.objects object).send delivery i (upload digest revision payload) held gap
    some { s.goto i (VersionedCell.afterSend sent.2 delivery (.returned revision) (.loading revision payload tries) .raised) with
      objects := Function.update s.objects object sent.1 }
  | .returned _, .fail => none
  | _, .fail => some (s.goto i .raised)
  | _, _ => none

def Unpublished (object : VersionedCell Published I) : Prop :=
  ∀ p, object.value = some p → p.notificationScope = none ∧ p.notificationRevision = 0

def publications : System (State I) (I × Action) :=
  .ofStep (fun s => (∀ key, s.states key = .absent) ∧ (∀ key, Unpublished (s.objects key)) ∧ (∀ i, s.phase i = .idle) ∧
    s.commits = []) (step texts digest calls)

end Code

section Invariant

variable (texts : Texts) (digest : Scope → String) (calls : I → Call)

def Has (ledger : Ledger) (key : String) : Prop := (ledger.events.lookup key).isSome

def Identified (scope : Scope) (payload : Payload) : Prop := payload.runs ≠ [] ∧ ∀ row ∈ payload.runs, row.scope = scope

def Separates : Prop := ∀ i j, digest (calls i).scope = digest (calls j).scope → (calls i).scope = (calls j).scope

def OfKey (key : String) (scope : Scope) : Prop := digest scope = key ∧ ∃ i, (calls i).scope = scope

def Phase.carries (revision : ℕ) : Phase → Prop
  | .loading r _ _ | .uploading r _ _ _ | .returned r => r = revision
  | .raised => True
  | _ => False

structure CellSound (phase : I → Phase) (key : String) (cell : VersionedCell Ledger I) : Prop where
  ordered : cell.log.Pairwise fun w v => v.value.revision < w.value.revision ∧ ∀ k, Has v.value k → Has w.value k
  identity : ∀ w ∈ cell.log, ∀ item ∈ w.value.items, OfKey digest calls key item.event.scope
  positive : ∀ w ∈ cell.log, 0 < w.value.revision
  authored : ∀ w ∈ cell.log, digest (calls w.writer).scope = key ∧ (phase w.writer).carries w.value.revision

def Stored (cell : VersionedCell Ledger I) (revision : ℕ) (P : Ledger → Prop) : Prop :=
  ∃ w ∈ cell.log, w.value.revision = revision ∧ P w.value

def ObjectSound (states : String → VersionedCell Ledger I) (p : Published) : Prop :=
  (p.notificationScope = none ∧ p.notificationRevision = 0) ∨ ∃ i, p.notificationScope = some (digest (calls i).scope) ∧
    Identified (calls i).scope p.payload ∧ Stored (states (digest (calls i).scope)) p.notificationRevision fun ledger =>
      projectNotificationEvents texts ledger.items = .ok p.payload

def Projected (c : Call) (cell : VersionedCell Ledger I) (revision : ℕ) (payload : Payload) : Prop :=
  Stored cell revision fun ledger =>
    Has ledger c.request.fact.dedupeKey ∧ projectNotificationEvents texts ledger.items = .ok payload

def Phase.Sound (c : Call) (cell : VersionedCell Ledger I) (object : VersionedCell Published I) : Phase → Prop
  | .idle | .raised => True
  | .reading record _ _ => OfKey digest calls (digest c.scope) record.event.scope
  | .writing record _ _ held ledger => ∃ n r, cell.Held held n ∧ OfKey digest calls (digest c.scope) r.event.scope ∧
      turn c.request r (cell.rewind n).value = .ok ⟨record, ledger, true⟩
  | .loading revision payload _ => Projected texts c cell revision payload
  | .uploading revision payload _ held => Projected texts c cell revision payload ∧ ∃ n, object.Held held n ∧
      ∀ p, (object.rewind n).value = some p → p.notificationRevision < revision ∧ slotAccepts digest c.scope p
  | .returned revision => (Stored cell revision fun ledger => Has ledger c.request.fact.dedupeKey) ∧
      ∃ p, object.value = some p ∧ revision ≤ p.notificationRevision ∧ p.notificationScope = some (digest c.scope)

structure State.Sound (s : State I) : Prop where
  cells : ∀ key, CellSound digest calls s.phase key (s.states key)
  objects : ∀ key p, (s.objects key).value = some p → ObjectSound texts digest calls s.states p
  phases : ∀ i, (s.phase i).Sound texts digest calls (calls i) (s.states (digest (calls i).scope)) (s.objects (calls i).objectKey)

def Renewed (object object' : VersionedCell Published I) : Prop :=
  ∀ p, object.value = some p → ∃ p', object'.value = some p' ∧ p.notificationRevision ≤ p'.notificationRevision ∧
    (∀ mark, p.notificationScope = some mark → p'.notificationScope = some mark) ∧
      (p' = p ∨ ∃ scope, Identified scope p.payload ∧ Identified scope p'.payload)

variable {texts digest calls} {s t : State I} {i : I} {c : Call} {cell cell' : VersionedCell Ledger I}
  {object object' object'' : VersionedCell Published I} {ph ph' : Phase}

omit [DecidableEq I] in
lemma Stored.extend {revision : ℕ} {P : Ledger → Prop} (h : Stored cell revision P) (he : cell.Extends cell') :
    Stored cell' revision P := by
  obtain ⟨w, hw, hr⟩ := h
  exact ⟨w, he.mem hw, hr⟩

omit [DecidableEq I] in
lemma Renewed.refl : Renewed object object := fun p hp => ⟨p, hp, le_rfl, fun _ h => h, .inl rfl⟩

omit [DecidableEq I] in
lemma Renewed.trans (h : Renewed object object') (h' : Renewed object' object'') : Renewed object object'' := by
  intro p hp
  obtain ⟨p', hp', hle, hmark, hsame⟩ := h p hp
  obtain ⟨p'', hp'', hle', hmark', hsame'⟩ := h' p' hp'
  refine ⟨p'', hp'', hle.trans hle', fun mark hm => hmark' mark (hmark mark hm), ?_⟩
  rcases hsame with rfl | ⟨scope, hs, hs'⟩
  · exact hsame'
  · rcases hsame' with rfl | ⟨scope', ht, ht'⟩
    · exact .inr ⟨scope, hs, hs'⟩
    · obtain ⟨row, hrow⟩ := List.exists_mem_of_ne_nil _ ht.1
      obtain rfl : scope = scope' := (hs'.2 row hrow).symm.trans (ht.2 row hrow)
      exact .inr ⟨scope, hs, ht'⟩

omit [DecidableEq I] in
lemma Phase.Sound.extend (h : ph.Sound texts digest calls c cell object) (hc : cell.Extends cell') (ho : object.Extends object')
    (hr : Renewed object object') : ph.Sound texts digest calls c cell' object' := by
  cases ph with
  | idle => trivial
  | raised => trivial
  | reading record seen tries => exact h
  | writing record seen tries held ledger =>
    obtain ⟨n, r, hheld, hscope, hturn⟩ := h
    exact ⟨n, r, hheld.extend hc, hscope, hc.rewind hheld.1 ▸ hturn⟩
  | loading revision payload tries =>
    have hstored : Projected texts c cell revision payload := h
    exact Stored.extend hstored hc
  | uploading revision payload tries held =>
    obtain ⟨hstored, n, hheld, hp⟩ := h
    exact ⟨Stored.extend hstored hc, n, hheld.extend ho, ho.rewind hheld.1 ▸ hp⟩
  | returned revision =>
    obtain ⟨hstored, p, hp, hle, hmark⟩ := h
    obtain ⟨p', hp', hle', hmark', _⟩ := hr p hp
    exact ⟨hstored.extend hc, p', hp', hle.trans hle', hmark' _ hmark⟩

omit [DecidableEq I] in
lemma ObjectSound.extend {states states' : String → VersionedCell Ledger I} {p : Published}
    (h : ObjectSound texts digest calls states p) (he : ∀ key, (states key).Extends (states' key)) :
    ObjectSound texts digest calls states' p := by
  rcases h with h | ⟨i, hmark, hrows, hstored⟩
  · exact .inl h
  · exact .inr ⟨i, hmark, hrows, hstored.extend (he _)⟩

lemma CellSound.update {phase : I → Phase} {key : String} (h : CellSound digest calls phase key cell)
    (hcarry : ∀ r, (phase i).carries r → ph'.carries r) :
    CellSound digest calls (Function.update phase i ph') key cell where
  ordered := h.ordered
  identity := h.identity
  positive := h.positive
  authored w hw := by
    obtain ⟨hscope, hc⟩ := h.authored w hw
    refine ⟨hscope, ?_⟩
    by_cases hi : w.writer = i
    · rw [hi, Function.update_self]
      exact hcarry _ (hi ▸ hc)
    · rw [Function.update_of_ne hi]
      exact hc

omit [DecidableEq I] in
lemma has_decoded {ledger : Ledger} {k : String} : Has ledger.decoded k ↔ Has ledger k := by
  simp [Has, decoded_lookup]

omit [DecidableEq I] in
lemma projection_decoded {ledger : Ledger} :
    projectNotificationEvents texts ledger.decoded.items = projectNotificationEvents texts ledger.items := by
  rw [decoded_items, projectNotificationEvents_decoded]

omit [DecidableEq I] in
lemma CellSound.store {phase : I → Phase} {key : String} {record r : Item} {ledger : Ledger} {gap : ℕ}
    (h : CellSound digest calls phase key cell) (hkey : digest (calls i).scope = key) (hr : OfKey digest calls key r.event.scope)
    (hturn : turn (calls i).request r cell.value = .ok ⟨record, ledger, true⟩) (hcarry : (phase i).carries ledger.revision) :
    CellSound digest calls phase key (cell.store i ledger.decoded gap) := by
  have hrevision := (turn_ok hturn).2.2.1
  simp only [if_true] at hrevision
  constructor
  · refine List.pairwise_cons.mpr ⟨fun v hv => ?_, h.ordered⟩
    obtain ⟨w, ws, hl⟩ := List.exists_cons_of_ne_nil (List.ne_nil_of_mem hv)
    have hvalue : cell.value = some w.value := by simp [VersionedCell.value, hl]
    have hnewest : v.value.revision ≤ w.value.revision ∧ ∀ k, Has v.value k → Has w.value k := by
      rcases List.mem_cons.mp (hl ▸ hv) with rfl | hv
      · exact ⟨le_rfl, fun _ hk => hk⟩
      · obtain ⟨hlt, hhas⟩ := (List.pairwise_cons.mp (hl ▸ h.ordered)).1 v hv
        exact ⟨hlt.le, hhas⟩
    rw [hvalue, Option.getD_some] at hrevision
    refine ⟨hnewest.1.trans_lt (hrevision ▸ Nat.lt_succ_self _), fun k hk => has_decoded.mpr ?_⟩
    by_cases hq : k = (calls i).request.fact.dedupeKey
    · rw [Has, hq, turn_lookup hturn]
      rfl
    · rw [Has, turn_lookup_ne hturn hq, hvalue]
      exact hnewest.2 k hk
  · have hold : ∀ item ∈ (cell.value.getD .empty).items, OfKey digest calls key item.event.scope := by
      cases hl : cell.log with
      | nil => simp [VersionedCell.value, hl, Ledger.empty, Ledger.items]
      | cons w ws => simpa [VersionedCell.value, hl] using h.identity w (hl ▸ List.mem_cons_self)
    intro w hw item hitem
    rcases List.mem_cons.mp hw with rfl | hw
    · obtain ⟨e, he, rfl⟩ := List.mem_map.mp hitem
      obtain ⟨e', he', rfl⟩ := List.mem_map.mp he
      exact (turn_scope (P := OfKey digest calls key) hturn hr hold).2 e'.2 (List.mem_map.mpr ⟨e', he', rfl⟩)
    · exact h.identity w hw item hitem
  · intro w hw
    rcases List.mem_cons.mp hw with rfl | hw
    · exact hrevision ▸ Nat.succ_pos _
    · exact h.positive w hw
  · intro w hw
    rcases List.mem_cons.mp hw with rfl | hw
    · exact ⟨hkey, hcarry⟩
    · exact h.authored w hw

omit [DecidableEq I] in
lemma CellSound.rewind_identity {phase : I → Phase} {key : String} (h : CellSound digest calls phase key cell) (n : ℕ) :
    ∀ item ∈ ((cell.rewind n).value.getD .empty).items, OfKey digest calls key item.event.scope := by
  intro item hitem
  cases hv : (cell.rewind n).value with
  | none => simp [hv, Ledger.empty, Ledger.items] at hitem
  | some old =>
    obtain ⟨w, hw, rfl⟩ := Option.map_eq_some_iff.mp hv
    rw [hv] at hitem
    exact h.identity w (List.mem_of_mem_drop (List.mem_of_mem_head? hw)) item hitem

end Invariant

section Steps

variable {texts : Texts} {digest : Scope → String} {calls : I → Call} {s t u : State I} {i : I} {ph : Phase}

structure Later (s t : State I) : Prop where
  states : ∀ key, (s.states key).Extends (t.states key)
  objects : ∀ key, (s.objects key).Extends (t.objects key)
  renewed : ∀ key, Renewed (s.objects key) (t.objects key)

omit [DecidableEq I] in
lemma Later.refl : Later s s := ⟨fun _ => .refl, fun _ => .refl, fun _ => .refl⟩

omit [DecidableEq I] in
lemma Later.trans (h : Later s t) (h' : Later t u) : Later s u where
  states key := (h.states key).trans (h'.states key)
  objects key := (h.objects key).trans (h'.objects key)
  renewed key := (h.renewed key).trans (h'.renewed key)

lemma State.Sound.move (h : s.Sound texts digest calls) (hlater : Later s t) (hphase : t.phase = Function.update s.phase i ph)
    (hcells : ∀ key, CellSound digest calls t.phase key (t.states key))
    (hobjects : ∀ key p, (t.objects key).value = some p → ObjectSound texts digest calls t.states p)
    (hi : ph.Sound texts digest calls (calls i) (t.states (digest (calls i).scope)) (t.objects (calls i).objectKey)) :
    t.Sound texts digest calls where
  cells := hcells
  objects := hobjects
  phases j := by
    rw [hphase]
    by_cases hj : j = i
    · subst hj
      rw [Function.update_self]
      exact hi
    · rw [Function.update_of_ne hj]
      exact (h.phases j).extend (hlater.states _) (hlater.objects _) (hlater.renewed _)

lemma State.Sound.goto (h : s.Sound texts digest calls) (ph : Phase) (commits : List (I × List Item))
    (hcarry : ∀ r, (s.phase i).carries r → ph.carries r)
    (hi : ph.Sound texts digest calls (calls i) (s.states (digest (calls i).scope)) (s.objects (calls i).objectKey)) :
    State.Sound texts digest calls { s.goto i ph with commits := commits } ∧ Later s { s.goto i ph with commits := commits } := by
  have hlater : Later s { s.goto i ph with commits := commits } := ⟨fun _ => .refl, fun _ => .refl, fun _ => .refl⟩
  exact ⟨h.move hlater rfl (fun key => (h.cells key).update hcarry) h.objects hi, hlater⟩

variable {c : Call} {cell : VersionedCell Ledger I} {object : VersionedCell Published I}
  {states : String → VersionedCell Ledger I} {payload : Payload} {p : Published} {revision : ℕ}

omit [DecidableEq I] in
lemma publishing_carries {ledger : Ledger} : (publishing texts ledger).carries ledger.revision := by
  unfold publishing
  cases projectNotificationEvents texts ledger.items with
  | error e => trivial
  | ok payload => rfl

omit [DecidableEq I] in
lemma publishing_sound {ledger : Ledger} (h : Stored cell ledger.revision fun l =>
      Has l c.request.fact.dedupeKey ∧ projectNotificationEvents texts l.items = projectNotificationEvents texts ledger.items) :
    (publishing texts ledger).Sound texts digest calls c cell object := by
  unfold publishing
  cases hp : projectNotificationEvents texts ledger.items with
  | error e => trivial
  | ok payload =>
    obtain ⟨w, hw, hr, hhas, hsame⟩ := h
    exact ⟨w, hw, hr, hhas, hsame.trans hp⟩

omit [DecidableEq I] in
lemma Identified.unique {scope scope' : Scope} (h : Identified scope payload) (h' : Identified scope' payload) : scope = scope' := by
  obtain ⟨row, hrow⟩ := List.exists_mem_of_ne_nil _ h.1
  exact (h.2 row hrow).symm.trans (h'.2 row hrow)

omit [DecidableEq I] in
lemma Projected.identity {phase : I → Phase} (hd : Separates digest calls) (h : Projected texts (calls i) cell revision payload)
    (hcell : CellSound digest calls phase (digest (calls i).scope) cell) : Identified (calls i).scope payload := by
  obtain ⟨w, hw, _, _, hproject⟩ := h
  refine projectNotificationEvents_identity hproject fun item hitem => ?_
  obtain ⟨hdigest, j, hj⟩ := hcell.identity w hw item hitem
  exact hj.symm.trans (hd j i (hj ▸ hdigest))

omit [DecidableEq I] in
lemma ObjectSound.accepted (hd : Separates digest calls) (h : ObjectSound texts digest calls states p)
    (ha : slotAccepts digest (calls i).scope p) : Identified (calls i).scope p.payload ∧
      (p.notificationScope = some (digest (calls i).scope) ∨ p.notificationScope = none ∧ p.notificationRevision = 0) := by
  have haccepts : p.notificationScope = some (digest (calls i).scope) ∨ Identified (calls i).scope p.payload := by
    simpa [slotAccepts, Identified] using ha
  rcases h with ⟨hnone, hzero⟩ | ⟨j, hmark, hrows, _⟩
  · rcases haccepts with hsome | hrows
    · rw [hnone] at hsome
      cases hsome
    · exact ⟨hrows, .inr ⟨hnone, hzero⟩⟩
  · have hsame : (calls j).scope = (calls i).scope := by
      rcases haccepts with hsome | hrows'
      · exact hd j i (Option.some.inj (hmark.symm.trans hsome))
      · exact hrows.unique hrows'
    exact ⟨hsame ▸ hrows, .inl (hsame ▸ hmark)⟩

omit [DecidableEq I] in
lemma loadObject_carries (missed : Bool) (tries : ℕ) :
    (loadObject digest revision payload object missed tries).carries revision := by
  unfold loadObject
  split
  · trivial
  · split
    · trivial
    · split
      · rfl
      · split
        · rfl
        · split
          · trivial
          · split
            · rfl
            · rfl

omit [DecidableEq I] in
lemma loadObject_sound {phase : I → Phase} (hd : Separates digest calls) (h : Projected texts (calls i) cell revision payload)
    (hcell : CellSound digest calls phase (digest (calls i).scope) cell)
    (hobject : ∀ p, object.value = some p → ObjectSound texts digest calls states p) (missed : Bool) (tries : ℕ) :
    (loadObject digest revision payload object missed tries).Sound texts digest calls (calls i) cell object := by
  have hid := h.identity hd hcell
  unfold loadObject
  split
  · trivial
  · rename_i tries
    split
    · trivial
    · rename_i first rest hruns
      have hfirst : first.scope = (calls i).scope := hid.2 first (hruns ▸ List.mem_cons_self)
      split
      · rename_i hvalue
        refine ⟨h, object.writes, VersionedCell.held_read, fun p hp => ?_⟩
        rw [VersionedCell.rewind_writes, hvalue] at hp
        cases hp
      · rename_i p hvalue
        split
        · -- The generation that it goes on with is that of an object that does not exist.
          have hzero : object.rewind 0 = .absent := by simp [VersionedCell.rewind, VersionedCell.writes, VersionedCell.absent]
          refine ⟨h, 0, ⟨Nat.zero_le _, by rw [hzero]; rfl⟩, fun p hp => ?_⟩
          rw [hzero] at hp
          cases hp
        · split
          · trivial
          · rename_i haccepts
            rw [Bool.not_eq_true, Bool.not_eq_false', hfirst] at haccepts
            split
            · rename_i hle
              obtain ⟨w, hw, hr, hhas, _⟩ := h
              refine ⟨⟨w, hw, hr, hhas⟩, p, hvalue, hle, ?_⟩
              rcases ((hobject p hvalue).accepted hd haccepts).2 with hmark | ⟨_, hzero⟩
              · exact hmark
              · have hpositive := hcell.positive w hw
                omega
            · rename_i hlt
              refine ⟨h, object.writes, VersionedCell.held_read, fun p' hp' => ?_⟩
              rw [VersionedCell.rewind_writes, hvalue, Option.some.injEq] at hp'
              subst hp'
              exact ⟨Nat.lt_of_not_le hlt, haccepts⟩

lemma State.Sound.commit (h : s.Sound texts digest calls) {record : Item} {seen : List Item} {tries held gap : ℕ}
    {ledger : Ledger} {commits : List (I × List Item)} (hi : s.phase i = .writing record seen tries held ledger)
    (hg : (s.states (digest (calls i).scope)).generation = held) (hph : ph = publishing texts ledger ∨ ph = .raised) :
    let cell := (s.states (digest (calls i).scope)).store i ledger.decoded gap
    let t : State I := ⟨Function.update s.states (digest (calls i).scope) cell, s.objects, Function.update s.phase i ph, commits⟩
    t.Sound texts digest calls ∧ Later s t := by
  intro cell t
  have hphase := h.phases i
  rw [hi] at hphase
  obtain ⟨n, r, hheld, hscope, hturn⟩ := hphase
  rw [hheld.current hg, VersionedCell.rewind_writes] at hturn
  have hlater : Later s t := by
    refine ⟨fun key => ?_, fun _ => .refl, fun _ => .refl⟩
    by_cases hk : key = digest (calls i).scope
    · subst hk
      simpa [t] using VersionedCell.extends_store
    · simpa [t, hk] using VersionedCell.Extends.refl
  have hcarry : ∀ revision, (s.phase i).carries revision → ph.carries revision := by
    intro revision hc
    rw [hi] at hc
    cases hc
  have hcells : ∀ key, CellSound digest calls t.phase key (t.states key) := by
    intro key
    by_cases hk : key = digest (calls i).scope
    · subst hk
      have hstates : t.states (digest (calls i).scope) = cell := Function.update_self ..
      rw [hstates]
      refine ((h.cells _).update hcarry).store rfl hscope hturn ?_
      rw [Function.update_self]
      rcases hph with rfl | rfl
      · exact publishing_carries
      · trivial
    · have hstates : t.states key = s.states key := Function.update_of_ne hk ..
      rw [hstates]
      exact (h.cells key).update hcarry
  have hown : ph.Sound texts digest calls (calls i) (t.states (digest (calls i).scope)) (t.objects (calls i).objectKey) := by
    have hstates : t.states (digest (calls i).scope) = cell := Function.update_self ..
    rcases hph with rfl | rfl
    · rw [hstates]
      refine publishing_sound ⟨_, List.mem_cons_self, rfl, has_decoded.mpr ?_, projection_decoded⟩
      rw [Has, turn_lookup hturn]
      rfl
    · trivial
  exact ⟨h.move hlater rfl hcells (fun key p hp => (h.objects key p hp).extend hlater.states) hown, hlater⟩

lemma State.Sound.publish (hd : Separates digest calls) (h : s.Sound texts digest calls) {tries held gap : ℕ}
    (hi : s.phase i = .uploading revision payload tries held) (hg : (s.objects (calls i).objectKey).generation = held)
    (hph : ph = .returned revision ∨ ph = .raised) :
    let object := (s.objects (calls i).objectKey).store i (upload digest revision payload) gap
    let t : State I :=
      ⟨s.states, Function.update s.objects (calls i).objectKey object, Function.update s.phase i ph, s.commits⟩
    t.Sound texts digest calls ∧ Later s t := by
  intro object t
  have hphase := h.phases i
  rw [hi] at hphase
  obtain ⟨hprojected, n, hheld, hlower⟩ := hphase
  rw [hheld.current hg, VersionedCell.rewind_writes] at hlower
  have hid := hprojected.identity hd (h.cells _)
  have hmark : (upload digest revision payload).notificationScope = some (digest (calls i).scope) := by
    obtain ⟨first, rest, hruns⟩ := List.exists_cons_of_ne_nil hid.1
    simp [upload, hruns, hid.2 first (hruns ▸ List.mem_cons_self)]
  have hobject : t.objects (calls i).objectKey = object := Function.update_self ..
  have hothers : ∀ key, key ≠ (calls i).objectKey → t.objects key = s.objects key := fun key hk => Function.update_of_ne hk ..
  have hrenewed : Renewed (s.objects (calls i).objectKey) object := by
    intro p hp
    obtain ⟨hlt, haccepts⟩ := hlower p hp
    obtain ⟨hrows, hscope⟩ := (h.objects _ p hp).accepted hd haccepts
    refine ⟨_, VersionedCell.store_value, hlt.le, fun mark hm => ?_, .inr ⟨_, hrows, hid⟩⟩
    rcases hscope with hsome | ⟨hnone, _⟩
    · rw [hmark, ← hsome, hm]
    · rw [hnone] at hm
      cases hm
  have hlater : Later s t := by
    refine ⟨fun _ => .refl, fun key => ?_, fun key => ?_⟩
    · by_cases hk : key = (calls i).objectKey
      · rw [hk, hobject]
        exact VersionedCell.extends_store
      · rw [hothers key hk]
        exact .refl
    · by_cases hk : key = (calls i).objectKey
      · rw [hk, hobject]
        exact hrenewed
      · rw [hothers key hk]
        exact .refl
  have hcarry : ∀ r, (s.phase i).carries r → ph.carries r := by
    intro r hc
    rw [hi] at hc
    rcases hph with rfl | rfl
    · exact hc
    · trivial
  have hobjects : ∀ key p, (t.objects key).value = some p → ObjectSound texts digest calls t.states p := by
    intro key p hp
    by_cases hk : key = (calls i).objectKey
    · rw [hk, hobject, VersionedCell.store_value] at hp
      obtain rfl := Option.some.inj hp
      obtain ⟨w, hw, hr, _, hproject⟩ := hprojected
      exact .inr ⟨_, hmark, hid, w, hw, hr, hproject⟩
    · rw [hothers key hk] at hp
      exact h.objects key p hp
  have hown : ph.Sound texts digest calls (calls i) (t.states (digest (calls i).scope)) (t.objects (calls i).objectKey) := by
    rcases hph with rfl | rfl
    · rw [hobject]
      obtain ⟨w, hw, hr, hhas, _⟩ := hprojected
      exact ⟨⟨w, hw, hr, hhas⟩, _, VersionedCell.store_value, le_rfl, hmark⟩
    · trivial
  exact ⟨h.move hlater rfl (fun key => (h.cells key).update hcarry) hobjects hown, hlater⟩

lemma step_sound (hd : Separates digest calls) (h : s.Sound texts digest calls) {l : I × Action}
    (hstep : step texts digest calls s l = some t) : t.Sound texts digest calls ∧ Later s t := by
  obtain ⟨i, action⟩ := l
  have hphase := h.phases i
  have hraise : State.Sound texts digest calls (s.goto i .raised) ∧ Later s (s.goto i .raised) :=
    h.goto .raised s.commits (fun _ _ => trivial) trivial
  unfold step at hstep
  dsimp only at hstep
  split at hstep
  · rename_i hi
    split at hstep
    · exact Option.some.inj hstep ▸ hraise
    · cases hstep
      refine h.goto _ s.commits (fun r hc => ?_) ?_
      · rw [hi] at hc
        cases hc
      · split
        · exact ⟨rfl, i, rfl⟩
        · trivial
  · exact Option.some.inj hstep ▸ hraise
  · rename_i record seen tries hi
    rw [hi] at hphase
    split at hstep
    · exact Option.some.inj hstep ▸ hraise
    · rename_i turned hturn
      have hcarry : ∀ (ph : Phase) (r : ℕ), (s.phase i).carries r → ph.carries r := by
        intro ph r hc
        rw [hi] at hc
        cases hc
      split at hstep
      · rename_i hchanged
        cases hstep
        obtain ⟨record', ledger, changed⟩ := turned
        obtain rfl : changed = true := hchanged
        refine h.goto _ s.commits (hcarry _) ⟨_, record, VersionedCell.held_read, hphase, ?_⟩
        rw [← hturn, VersionedCell.rewind_writes]
      · rename_i hchanged
        cases hstep
        have hkept := turn_unchanged hturn (by simpa using hchanged)
        refine h.goto _ _ (hcarry _) (publishing_sound ?_)
        obtain ⟨w, hw, hvalue⟩ := Option.map_eq_some_iff.mp hkept
        have hhas : Has turned.ledger (calls i).request.fact.dedupeKey := by
          rw [Has, turn_lookup hturn]
          rfl
        exact ⟨w, List.mem_of_mem_head? hw, by rw [hvalue], by rw [hvalue]; exact hhas, by rw [hvalue]⟩
  · rename_i record seen tries held ledger delivery gap hi
    obtain rfl := Option.some.inj hstep
    rcases VersionedCell.afterSend_cases (s.states (digest (calls i).scope)) delivery i ledger.decoded held gap
      (publishing texts ledger) (.reading record seen tries) .raised with ⟨hsame, hph⟩ | ⟨hg, hstore, hph⟩
    · rw [hsame, Function.update_eq_self]
      rw [hi] at hphase
      refine h.goto _ _ (fun r hc => ?_) ?_
      · rw [hi] at hc
        cases hc
      · rcases hph with hph | hph
        · rw [hph]
          obtain ⟨n, r, hheld, hscope, hturn⟩ := hphase
          exact (turn_scope (P := OfKey digest calls _) hturn hscope ((h.cells _).rewind_identity n)).1
        · rw [hph]
          trivial
    · rw [hstore]
      exact h.commit hi hg hph
  · rename_i revision payload tries missed hi
    cases hstep
    rw [hi] at hphase
    refine h.goto _ s.commits (fun r hc => ?_) (loadObject_sound hd hphase (h.cells _) (h.objects _) missed tries)
    rw [hi] at hc
    obtain rfl : revision = r := hc
    exact loadObject_carries missed tries
  · rename_i revision payload tries held delivery gap hi
    obtain rfl := Option.some.inj hstep
    rcases VersionedCell.afterSend_cases (s.objects (calls i).objectKey) delivery i (upload digest revision payload) held gap
      (Phase.returned revision) (.loading revision payload tries) .raised with ⟨hsame, hph⟩ | ⟨hg, hstore, hph⟩
    · rw [hsame, Function.update_eq_self]
      rw [hi] at hphase
      refine h.goto _ _ (fun r hc => ?_) ?_
      · rw [hi] at hc
        rcases hph with hph | hph
        · rw [hph]
          exact hc
        · rw [hph]
          trivial
      · rcases hph with hph | hph
        · rw [hph]
          exact hphase.1
        · rw [hph]
          trivial
    · rw [hstore]
      exact h.publish hd hi hg hph
  · cases hstep
  · exact Option.some.inj hstep ▸ hraise
  · cases hstep

omit [DecidableEq I] in
lemma CellSound.keeps {phase : I → Phase} {key k : String} (h : CellSound digest calls phase key cell)
    {v w : StoredWrite Ledger I} (hv : v ∈ cell.log) (hw : w ∈ cell.log) (hle : v.value.revision ≤ w.value.revision)
    (hk : Has v.value k) : Has w.value k := by
  have hpair := h.ordered
  obtain ⟨before, after, hl⟩ := List.append_of_mem hv
  rw [hl] at hpair hw
  rcases List.mem_append.mp hw with hin | hin
  · exact ((List.pairwise_append.mp hpair).2.2 w hin v List.mem_cons_self).2 k hk
  · rcases List.mem_cons.mp hin with rfl | hin
    · exact hk
    · have hlt := ((List.pairwise_cons.mp (List.pairwise_append.mp hpair).2.1).1 w hin).1
      omega

lemma reachable_sound (hd : Separates digest calls) (h : (publications texts digest calls).Reachable s) :
    s.Sound texts digest calls := by
  refine h.invariant (I := fun s => s.Sound texts digest calls) (fun s hinit => ?_) fun s l t hs hstep => ?_
  obtain ⟨hstates, hobjects, hphase, _⟩ := hinit
  refine ⟨fun key => ?_, fun key p hp => .inl (hobjects key p hp), fun i => ?_⟩
  · rw [hstates key]
    refine ⟨List.Pairwise.nil, fun w hw => ?_, fun w hw => ?_, fun w hw => ?_⟩ <;> cases hw
  · rw [hphase i]
    trivial
  · have hnext : step texts digest calls s l = some t := hstep
    exact (step_sound hd hs hnext).1

lemma run_later (hd : Separates digest calls) {ls : List (I × Action)} (h : s.Sound texts digest calls)
    (hr : (publications texts digest calls).Run s ls t) : Later s t := by
  have hrun : t.Sound texts digest calls ∧ Later s t := by
    refine hr.invariant (I := fun t => t.Sound texts digest calls ∧ Later s t) (fun u l v hu hstep => ?_) ⟨h, .refl⟩
    have hnext : step texts digest calls u l = some v := hstep
    obtain ⟨hv, hlater⟩ := step_sound hd hu.1 hnext
    exact ⟨hv, hu.2.trans hlater⟩
  exact hrun.2

end Steps

section Publication

variable {texts : Texts} {digest : Scope → String} {calls : I → Call} {s t : State I} {ls : List (I × Action)}

omit [DecidableEq I] in
lemma State.Sound.settled (hd : Separates digest calls) (h : s.Sound texts digest calls) {i : I} {slot : ObjectKey}
    (hreturned : ∃ revision, s.phase i = .returned revision)
    (hall : ∀ j, (calls j).scope = (calls i).scope →
      s.phase j = .idle ∨ ∃ revision, s.phase j = .returned revision ∧ (calls j).objectKey = slot) :
    ∃ p ledger, (s.objects slot).value = some p ∧ (s.states (digest (calls i).scope)).value = some ledger ∧
      p.notificationRevision = ledger.revision ∧ projectNotificationEvents texts ledger.items = .ok p.payload := by
  have hcell := h.cells (digest (calls i).scope)
  have hne : (s.states (digest (calls i).scope)).log ≠ [] := by
    obtain ⟨revision, hi⟩ := hreturned
    have hphase := h.phases i
    rw [hi] at hphase
    obtain ⟨⟨w, hw, _⟩, _⟩ := hphase
    exact List.ne_nil_of_mem hw
  obtain ⟨w, ws, hlog⟩ := List.exists_cons_of_ne_nil hne
  have hw : w ∈ (s.states (digest (calls i).scope)).log := hlog ▸ List.mem_cons_self
  obtain ⟨hscope, hcarries⟩ := hcell.authored w hw
  obtain ⟨revision, hphase, hslot⟩ : ∃ revision, s.phase w.writer = .returned revision ∧ (calls w.writer).objectKey = slot := by
    rcases hall w.writer (hd _ _ hscope) with hidle | hdone
    · rw [hidle] at hcarries
      cases hcarries
    · exact hdone
  rw [hphase] at hcarries
  obtain rfl : revision = w.value.revision := hcarries
  have hknown := h.phases w.writer
  rw [hphase, hslot] at hknown
  obtain ⟨_, p, hp, hle, hmark⟩ := hknown
  refine ⟨p, w.value, hp, by simp [VersionedCell.value, hlog], ?_⟩
  rcases h.objects slot p hp with ⟨hnone, _⟩ | ⟨j, hmark', _, v, hv, hv', hproject⟩
  · rw [hnone] at hmark
    cases hmark
  · have hkey : digest (calls j).scope = digest (calls i).scope := (Option.some.inj (hmark'.symm.trans hmark)).trans hscope
    -- No state is newer than the last commit, so the published one is that.
    rw [hkey, hlog] at hv
    rcases List.mem_cons.mp hv with rfl | hv
    · exact ⟨hv'.symm, hproject⟩
    · have hlt := ((List.pairwise_cons.mp (hlog ▸ hcell.ordered)).1 v hv).1
      omega

/-- What is published follows what was committed, and catches up with the last commit. -/
theorem published_states_follow_commits (hd : Separates digest calls) (hs : (publications texts digest calls).Reachable s)
    (hr : (publications texts digest calls).Run s ls t) :
    (∀ slot, Renewed (s.objects slot) (t.objects slot)) ∧
      (∀ slot p, (t.objects slot).value = some p → ObjectSound texts digest calls t.states p) ∧
      (∀ i revision, s.phase i = .returned revision →
        Stored (t.states (digest (calls i).scope)) revision (Has · (calls i).request.fact.dedupeKey) ∧
          ∀ w ∈ (t.states (digest (calls i).scope)).log, revision ≤ w.value.revision →
            Has w.value (calls i).request.fact.dedupeKey) ∧
      ∀ i slot, (∃ revision, t.phase i = .returned revision) →
        (∀ j, (calls j).scope = (calls i).scope →
          t.phase j = .idle ∨ ∃ revision, t.phase j = .returned revision ∧ (calls j).objectKey = slot) →
        ∃ p ledger, (t.objects slot).value = some p ∧ (t.states (digest (calls i).scope)).value = some ledger ∧
          p.notificationRevision = ledger.revision ∧ projectNotificationEvents texts ledger.items = .ok p.payload := by
  have hsound := reachable_sound hd hs
  have hsound' := reachable_sound hd (hs.extend hr)
  have hlater := run_later hd hsound hr
  refine ⟨hlater.renewed, hsound'.objects, fun i revision hi => ?_, fun i slot hi hall => hsound'.settled hd hi hall⟩
  have hphase := hsound.phases i
  rw [hi] at hphase
  obtain ⟨v, hv, hrevision, hhas⟩ := hphase.1
  have hv' := (hlater.states _).mem hv
  exact ⟨⟨v, hv', hrevision, hhas⟩, fun w hw hle => (hsound'.cells _).keeps hv' hw (hrevision ▸ hle) hhas⟩

end Publication

section Fixture

def fact₀ (dedupeKey eventKind : String) : Event :=
  ⟨scope₀, dedupeKey, "known", "run", eventKind, [], "2026-11-03T14:31:00+00:00", none, none, none⟩

def calls₀ (i : Bool) : Call := ⟨⟨fact₀ (if i then "cycle" else "submitted") "routine_cycle", true, false, none, none⟩, "main"⟩

def start₀ : State Bool := ⟨fun _ => .absent, fun _ => .absent, fun _ => .idle, []⟩

def overtaken₀ : List (Bool × Action) :=
  [(true, .start), (false, .start), (true, .read), (false, .read), (true, .write .acknowledged 0), (true, .load false),
    (false, .write .acknowledged 0), (false, .read), (false, .write .acknowledged 0), (false, .load false),
    (false, .upload .acknowledged 0), (true, .upload .acknowledged 0), (true, .load false)]

theorem published_states_follow_commits₀ : ∃ (t : State Bool) (p : Published) (ledger : Ledger),
    (publications texts₀ Scope.platformId calls₀).Reachable t ∧ t.phase true = .returned 1 ∧ t.phase false = .returned 2 ∧
      (t.objects (calls₀ true).objectKey).value = some p ∧ (t.states "ibkr").value = some ledger ∧
        p.notificationRevision = ledger.revision ∧ Has ledger "cycle" := by
  have hexecute : ((System.execute (step texts₀ Scope.platformId calls₀) start₀ overtaken₀).map fun t =>
      (t.phase true, t.phase false, (t.states "ibkr").value.map Ledger.revision)) =
        some (.returned 1, .returned 2, some 2) := by decide
  obtain ⟨t, ht, hphases⟩ := Option.map_eq_some_iff.mp hexecute
  simp only [Prod.mk.injEq] at hphases
  obtain ⟨htrue, hfalse, hrevision⟩ := hphases
  have hunpublished : Unpublished (.absent : VersionedCell Published Bool) := fun p hp => absurd hp (Option.some_ne_none p).symm
  have hreachable : (publications texts₀ Scope.platformId calls₀).Reachable t :=
    ⟨start₀, overtaken₀, ⟨fun _ => rfl, fun _ => hunpublished, fun _ => rfl, rfl⟩, System.run_of_execute ht⟩
  have hseparates : Separates Scope.platformId calls₀ := fun _ _ _ => rfl
  obtain ⟨_, _, hkept, hsettled⟩ := published_states_follow_commits hseparates hreachable (.nil t)
  obtain ⟨p, ledger, hp, hledger, hsame, _⟩ := hsettled true (calls₀ true).objectKey ⟨1, htrue⟩ fun j _ => by
    cases j
    · exact .inr ⟨2, hfalse, rfl⟩
    · exact .inr ⟨1, htrue, rfl⟩
  have hlast : (t.states "ibkr").value = some ledger := hledger
  refine ⟨t, p, ledger, hreachable, htrue, hfalse, hp, hledger, hsame, ?_⟩
  obtain ⟨w, hw, rfl⟩ := Option.map_eq_some_iff.mp hlast
  rw [hlast, Option.map_some, Option.some.injEq] at hrevision
  exact (hkept true 1 htrue).2 w (List.mem_of_mem_head? hw) (by omega)

end Fixture

end IbkrPlatform.Notifications.Publication
