import IbkrPlatform.Execution.Frames
import IbkrPlatform.Library.CreateOnce
import IbkrPlatform.Library.PosixPath

/-! The execution lock: no order is submitted without it, and one call of a scope takes it. -/

namespace IbkrPlatform.Execution.ExecutionLock

open Library Orders Sizing NewRiskGate RiskAuthority SettledCash Planning Rebalance Stages

section Path

def sanitizeToken (isAlnum : Char → Bool) (value : Option String) : String :=
  let text := Text.strip (value.getD "")
  if text = "" then "none"
  else String.ofList (text.toList.map fun c => if isAlnum c ∨ c ∈ ['-', '_', '.'] then c else '_')

/-- The arguments that name a lock besides those of a request; the snapshot date is normalised. -/
structure LockScope where
  accountGroup : Option String
  serviceName : Option String
  snapshotDate : Option String
  executionLockDir : Option String

/-- What the interpreter and the machine decide of a path. -/
structure Host where
  isAlnum : Char → Bool
  temporaryDir : String
  ascii : ∀ c : Char, c.toNat < 128 → isAlnum c = c.isAlphanum

/-- Python's `value or default`. -/
def orDefault (value : Option String) (default : String) : String := if value.getD "" = "" then default else value.getD ""

def lockDir (host : Host) (scope : LockScope) : PosixPath :=
  if scope.executionLockDir.getD "" = "" then (PosixPath.parse host.temporaryDir).join "ibkr_execution_locks"
  else PosixPath.parse (scope.executionLockDir.getD "")

def lockName (host : Host) (scope : LockScope) (r : Request) (mode : String) : String :=
  let tokens := [orDefault scope.accountGroup "default", orDefault scope.serviceName "service",
    orDefault r.strategyProfile "unknown", mode, r.metadata.tradeDate.getD "", orDefault scope.snapshotDate "no_snapshot"]
  "__".intercalate (tokens.map fun token => sanitizeToken host.isAlnum (some token)) ++ ".json"

def resolveExecutionLockPath (host : Host) (scope : LockScope) (r : Request) (mode : String) : PosixPath :=
  (lockDir host scope).join (lockName host scope r mode)

end Path

inductive Act
  | create (path : PosixPath) (won : Bool)
  | submit (intent : Intent)
deriving DecidableEq

structure Watched (W : Type) where
  outside : W
  acts : List Act

section Watch

variable {W : Type}

def watch {α : Type} (f : W → α × W) (w : Watched W) : α × Watched W :=
  ((f w.outside).1, { w with outside := (f w.outside).2 })

def watchSession (s : Session W) : Session (Watched W) where
  accountSubmissionSession := s.accountSubmissionSession
  recordCircuitBreakerOpen := watch s.recordCircuitBreakerOpen
  readState := watch s.readState

/-- The act of an exclusive creation; any other error of the file system creates nothing. -/
def createAct (path : PosixPath) : Except (Option Refusal) Unit → List Act
  | .ok () => [.create path true]
  | .error none => [.create path false]
  | .error (some _) => []

def watchPorts (path : String → PosixPath) (ports : Ports W) : Ports (Watched W) where
  gateEnabled := ports.gateEnabled
  stoplossEnabled := ports.stoplossEnabled
  effectiveToday := ports.effectiveToday
  setOrder := ports.setOrder
  evaluateAdmission := watch ports.evaluateAdmission
  sizingScale := watch ports.sizingScale
  session := ports.session.map watchSession
  quotes symbols := watch (ports.quotes symbols)
  paperAdmission := watch ports.paperAdmission
  openOrders := watch ports.openOrders
  settledCash := watch ports.settledCash
  availableBuyingPower := watch ports.availableBuyingPower
  fills := watch ports.fills
  openLock mode w :=
    let opened := ports.openLock mode w.outside
    (opened.1, ⟨opened.2, w.acts ++ createAct (path mode) opened.1⟩)
  writeLock mode := watch (ports.writeLock mode)
  readLock mode := watch (ports.readLock mode)
  cashBalance := watch ports.cashBalance
  monotonic := watch ports.monotonic
  submit broker intent reduction w :=
    let answer := ports.submit broker intent reduction w.outside
    (answer.1, ⟨answer.2, w.acts ++ [.submit intent]⟩)

end Watch

structure Call where
  World : Type
  kit : Kit
  ports : Ports World
  request : Request
  scope : LockScope
  world : World

section Call

variable (host : Host) (c : Call)

def Call.path (mode : String) : PosixPath := resolveExecutionLockPath host c.scope c.request mode

def Call.run : Run (Watched c.World) :=
  executeRebalance c.kit (watchPorts (c.path host) c.ports) c.request ⟨c.world, []⟩

def Call.acts : List Act := (c.run host).world.acts

def Call.lock : Option PosixPath := (resolveExecutionMode c.request).toOption.map (c.path host)

end Call

section Stages

variable {W : Type} {path : String → PosixPath} {kit : Kit} {ports : Ports W} {r : Request} {plan : Plan}

inductive Tried (lock : PosixPath) : List Act → Prop
  | untried : Tried lock []
  | refused : Tried lock [.create lock false]
  | created : Tried lock [.create lock true]

abbrev Untouched (w : Watched W) : Prop := w.acts = []

variable {I : List Act → Prop} {f : String → Watched W → Except (Option Refusal) Unit × Watched W}

lemma watch_kept (hf : ∀ mode w, I w.acts → I (f mode w).2.acts) :
    Frames.Kept (fun w : Watched W => I w.acts) { (watchPorts path ports).toEnvironment with openLock := f } where
  evaluateAdmission _ hw := hw
  sizingScale _ hw := hw
  quotes _ _ hw := hw
  paperAdmission _ hw := hw
  openOrders _ hw := hw
  settledCash _ hw := hw
  availableBuyingPower _ hw := hw
  fills _ hw := hw
  openLock := hf
  writeLock _ _ hw := hw
  readLock _ _ hw := hw
  cashBalance _ hw := hw
  monotonic _ hw := hw

lemma watch_keptBySession :
    Frames.KeptBySession (fun w : Watched W => I w.acts) { (watchPorts path ports).toEnvironment with openLock := f } where
  record s hs w hw := by
    obtain ⟨t, -, rfl⟩ := Option.map_eq_some_iff.mp hs
    exact hw
  read s hs w hw := by
    obtain ⟨t, -, rfl⟩ := Option.map_eq_some_iff.mp hs
    exact hw

lemma keeps_survey : Attempt.Keeps (Untouched (W := W)) (survey kit (watchPorts path ports).toEnvironment r) :=
  Frames.keeps_survey (e := { (watchPorts path ports).toEnvironment with openLock := fun _ w => (.ok (), w) })
    (watch_kept (I := (· = [])) fun _ _ hw => hw) (watch_keptBySession (I := (· = [])))

lemma tryCreateLock_triple {mode : String} :
    Attempt.Triple Untouched (fun created w => w.acts = [.create (path mode) created]) (fun w => Tried (path mode) w.acts)
      (tryCreateLock (watchPorts path ports).toEnvironment mode) := by
  refine Attempt.triple_bind (Q := fun opened w => w.acts = createAct (path mode) opened)
    (Attempt.triple_total fun w hw => ?_) fun opened => ?_
  · change w.acts ++ _ = _
    rw [hw]
    rfl
  · rcases opened with (_ | refusal) | ⟨⟩
    · exact Attempt.triple_pure fun w hw => hw
    · exact Attempt.triple_throw fun w hw => hw ▸ .untried
    · refine Attempt.triple_bind (Q := fun _ w => w.acts = [.create (path mode) true])
        (Attempt.Keeps.triple (P := fun w : Watched W => w.acts = [.create (path mode) true])
          (Frames.keeps_call fun w hw => hw) (fun _ _ hw => hw) fun w hw => hw ▸ .created) fun _ => ?_
      exact Attempt.triple_pure fun w hw => hw

lemma takeLock_triple {b : Book} {mode : String} {summary : Summary} :
    Attempt.Triple Untouched (fun _ w => w.acts = [.create (path mode) true]) (fun w => Tried (path mode) w.acts)
      (takeLock (watchPorts path ports).toEnvironment r b mode summary) := by
  refine Attempt.triple_bind (Q := fun _ => Untouched) (Attempt.triple_total fun w hw => hw) fun fills => ?_
  dsimp only
  split
  · exact Attempt.triple_throw fun w hw => hw ▸ .untried
  · refine Attempt.triple_bind tryCreateLock_triple fun created => ?_
    cases created with
    | true => exact Attempt.triple_pure fun w hw => hw
    | false =>
      refine Attempt.triple_bind (Q := fun _ w => w.acts = [.create (path mode) false])
        (Attempt.Keeps.triple (P := fun w : Watched W => w.acts = [.create (path mode) false])
          (Frames.keeps_call fun w hw => hw) (fun _ _ hw => hw) fun w hw => hw ▸ .refused) fun existing => ?_
      exact Attempt.triple_throw fun w hw => hw ▸ .refused

lemma settle_triple {s : Survey} :
    Attempt.Triple Untouched (fun _ w => w.acts = [.create (path s.authorized.mode) true])
      (fun w => Tried (path s.authorized.mode) w.acts) (settle kit (watchPorts path ports).toEnvironment r s) := by
  have hkept : Attempt.Keeps (Untouched (W := W)) (anticipate (watchPorts path ports).toEnvironment r s.observed) := by
    unfold anticipate
    split
    · exact Attempt.keeps_pure _
    · exact Attempt.keeps_total fun w hw => hw
  refine Attempt.triple_bind (Q := fun _ => Untouched)
    (hkept.triple (fun _ _ hw => hw) fun w hw => hw ▸ .untried) fun anticipated => ?_
  split
  · exact Attempt.triple_throw fun w hw => hw ▸ .untried
  · exact Attempt.triple_bind takeLock_triple fun _ => Attempt.triple_pure fun w hw => hw

end Stages

section Runs

variable {W : Type} {path : String → PosixPath} {kit : Kit} {ports : Ports W} {r : Request} {plan : Plan}

def Locked (lock : PosixPath) (acts : List Act) : Prop := ∃ intents : List Intent, acts = .create lock true :: intents.map .submit

lemma Locked.submit {lock : PosixPath} {acts : List Act} (h : Locked lock acts) (intent : Intent) :
    Locked lock (acts ++ [.submit intent]) := by
  obtain ⟨intents, rfl⟩ := h
  exact ⟨intents ++ [intent], by simp⟩

def Stopped (path : String → PosixPath) (r : Request) (w : Watched W) : Prop :=
  w.acts = [] ∨ ∃ mode, resolveExecutionMode r = .ok mode ∧ Tried (path mode) w.acts

lemma planRebalance_triple :
    Attempt.Triple Untouched (fun _ w => ∃ mode, resolveExecutionMode r = .ok mode ∧ Locked (path mode) w.acts)
      (Stopped path r) (planRebalance kit (watchPorts path ports).toEnvironment r) := by
  refine Attempt.triple_bind
    (Q := fun s w => resolveExecutionMode r = .ok s.authorized.mode ∧ w.acts = []) (fun w hw => ?_) fun s w hw => ?_
  · have hkept : Untouched ((survey kit (watchPorts path ports).toEnvironment r).exec w).2 := keeps_survey w hw
    split
    · rename_i s w' hs
      rw [hs] at hkept
      obtain ⟨_, _, _, _, _, _, ha, _⟩ := survey_ok hs
      exact ⟨(authorize_ok ha).2.2.1, hkept⟩
    · rename_i hs
      rw [hs] at hkept
      exact .inl hkept
  · have htriple : Attempt.Triple _ _ _ (settle kit (watchPorts path ports).toEnvironment r s) := settle_triple
    have hsettle := htriple w hw.2
    split
    · rename_i hs
      rw [hs] at hsettle
      exact ⟨_, hw.1, [], hsettle⟩
    · rename_i hs
      rw [hs] at hsettle
      exact .inr ⟨_, hw.1, hsettle⟩

lemma executePlan_locked {lock : PosixPath} {w : Watched W} (hw : Locked lock w.acts) :
    Locked lock (executePlan kit (watchPorts path ports) r plan w).world.acts := by
  let J : Watched W → Prop := fun w => Locked lock w.acts
  let noLock : Ports (Watched W) := { watchPorts path ports with openLock := fun _ w => (.ok (), w) }
  have henv : Frames.Kept J noLock.toEnvironment := watch_kept fun _ _ hw => hw
  have hsubmit : ∀ broker intent reduction w, J w → J ((watchPorts path ports).submit broker intent reduction w).2 :=
    fun _ intent _ _ hw => hw.submit intent
  unfold executePlan
  extract_lets sold start bought
  have hsold : J sold.1.world := Frames.sells_kept (fun _ _ w _ hw => hsubmit _ _ _ w hw) hw
  have hunlocked : J (startBuys kit noLock r plan sold.1).1.world := Frames.startBuys_kept henv hsold
  have hstart : J start.1.world := hunlocked
  have hbought : J bought.1.world := by
    unfold bought
    cases start.2 with
    | some reason => exact Frames.blocked_kept hstart
    | none =>
      have hbuys : J (buys kit noLock r plan start.1 none).1.world := Frames.buys_kept henv (fun _ hw => hw)
        (fun _ _ w _ hw => ⟨hsubmit _ _ none w hw, fun _ _ => hsubmit _ _ none w hw⟩) hstart
      exact hbuys
  split
  · exact hsold
  · split
    · exact hbought
    · exact hbought

end Runs

section Calls

variable {host : Host} {Id : Type}

def creates : Id × Act → Option (PosixPath × Bool)
  | (_, .create path won) => some (path, won)
  | (_, .submit _) => none

def project [DecidableEq Id] (i : Id) (history : List (Id × Act)) : List Act :=
  (history.filter (·.1 = i)).map Prod.snd

inductive Left {W : Type} (lock : Option PosixPath) (run : Run (Watched W)) : Prop
  | untried (h : run.world.acts = []) (horders : run.orders = [])
  | tried (own : PosixPath) (hlock : lock = some own) (h : Tried own run.world.acts) (horders : run.orders = [])
  | locked (own : PosixPath) (hlock : lock = some own) (h : Locked own run.world.acts)

lemma lock_of_mode {c : Call} {mode : String} (h : resolveExecutionMode c.request = .ok mode) :
    c.lock host = some (c.path host mode) := by
  simp [Call.lock, h, Except.toOption]

lemma call_left (c : Call) : Left (c.lock host) (c.run host) := by
  have hplan : Attempt.Triple _ _ _
      (planRebalance c.kit (watchPorts (c.path host) c.ports).toEnvironment c.request) := planRebalance_triple
  have htriple := hplan ⟨c.world, []⟩ rfl
  refine executeRebalance_cases (C := Left (c.lock host)) (fun stop w' hq => ?_) fun plan w' hq => ?_
  · rw [hq] at htriple
    have horders : (stopped c.request w' stop).orders = [] := by
      have hblank := fails_planRebalance _ stop w' hq
      cases stop with
      | raised refusal => rfl
      | returned summary => simp [stopped, Run.orders, (hblank summary rfl).submitted]
    have hworld : (stopped c.request w' stop).world = w' := by cases stop <;> rfl
    rcases htriple with h | ⟨mode, hmode, h⟩
    · exact .untried (by rw [hworld]; exact h) horders
    · exact .tried _ (lock_of_mode hmode) (by rw [hworld]; exact h) horders
  · rw [hq] at htriple
    obtain ⟨mode, hmode, h⟩ := htriple
    exact .locked _ (lock_of_mode hmode) (executePlan_locked h)

lemma mem_project [DecidableEq Id] {i : Id} {a : Act} {history : List (Id × Act)} :
    a ∈ project i history ↔ (i, a) ∈ history := by
  simp [project]

def host₀ : Host := ⟨Char.isAlphanum, "/tmp", fun _ _ => rfl⟩

def race₀ (second : Bool) : Call where
  World := Unit
  kit := wholeShares
  ports := { quiet [("TLT", 50)] (some 2000) with
    openLock := fun _ w => (if second then .error none else .ok (), w)
    submit := fun broker intent _ w => (.ok (⟨"Filled", some "1", some intent.quantity, intent.limitPrice⟩, broker), w) }
  request := request₀ false [] [("TLT", 1 / 2)] 2000
  scope := ⟨some "U1", none, none, none⟩
  world := ()

end Calls

end IbkrPlatform.Execution.ExecutionLock
