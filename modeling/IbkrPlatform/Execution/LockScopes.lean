import Mathlib.Data.List.Forall2
import IbkrPlatform.Execution.ExecutionLock

/-! When two execution scopes have one lock file. -/

namespace IbkrPlatform.Execution.LockScopes

open Library Planning ExecutionLock

section Tokens

variable (host : Host)

def named (token : String) : String := if Text.strip token = "" then "none" else Text.strip token

def components (scope : LockScope) (r : Request) (mode : String) : List String :=
  [orDefault scope.accountGroup "default", orDefault scope.serviceName "service", orDefault r.strategyProfile "unknown", mode,
    r.metadata.tradeDate.getD "", orDefault scope.snapshotDate "no_snapshot"].map named

def tells (c : Char) : Bool := (host.isAlnum c ∨ c = '-' ∨ c = '.') ∧ c ≠ '_'

/-- Texts of one length that differ only where neither character tells itself. -/
def Blurred (a b : List Char) : Prop := List.Forall₂ (fun c d => c = d ∨ tells host c = false ∧ tells host d = false) a b

def Parted (x : List Char) : Prop := ¬ ['_', '_'] <:+: x ++ ['_']

def Legible (token : String) : Prop := (∀ c ∈ token.toList, tells host c = true ∨ c = '_') ∧ Parted token.toList

instance (x : List Char) : Decidable (Parted x) :=
  @instDecidableNot _ (List.instDecidableIsInfixOfDecidableEq ['_', '_'] (x ++ ['_']))

-- The characters of the text are looked at, and not all there are.
instance (token : String) : Decidable (Legible host token) := @instDecidableAnd _ _ (List.decidableBAll _ _) inferInstance

def joined (tokens : List String) : List Char := ['_', '_'].intercalate (tokens.map String.toList)

def blur (c : Char) : Char := if host.isAlnum c ∨ c ∈ ['-', '_', '.'] then c else '_'

end Tokens

section Blur

variable {host : Host} {c d : Char}

lemma blur_of_tells (h : tells host c = true) : blur host c = c ∧ c ≠ '_' := by
  simp only [tells, decide_eq_true_eq] at h
  refine ⟨if_pos ?_, h.2⟩
  rcases h.1 with h | h | h
  · exact .inl h
  · simp [h]
  · simp [h]

lemma blur_of_not_tells (h : tells host c = false) : blur host c = '_' := by
  unfold blur
  split_ifs with hkept
  · by_contra hc
    have htells : tells host c = true := by
      simp only [tells, decide_eq_true_eq]
      refine ⟨?_, hc⟩
      rcases hkept with h | h
      · exact .inl h
      · simp only [List.mem_cons, List.not_mem_nil, or_false] at h
        tauto
    rw [h] at htells
    cases htells
  · rfl

lemma blur_eq_iff : blur host c = blur host d ↔ c = d ∨ tells host c = false ∧ tells host d = false := by
  cases hc : tells host c with
  | false =>
    rw [blur_of_not_tells hc]
    cases hd : tells host d with
    | false =>
      rw [blur_of_not_tells hd]
      exact ⟨fun _ => .inr ⟨rfl, rfl⟩, fun _ => rfl⟩
    | true =>
      rw [(blur_of_tells hd).1]
      constructor
      · exact fun h => absurd h.symm (blur_of_tells hd).2
      · rintro (rfl | ⟨-, h⟩)
        · rw [hc] at hd
          cases hd
        · cases h
  | true =>
    rw [(blur_of_tells hc).1]
    cases hd : tells host d with
    | false =>
      rw [blur_of_not_tells hd]
      constructor
      · exact fun h => absurd h (blur_of_tells hc).2
      · rintro (rfl | ⟨h, -⟩)
        · rw [hc] at hd
          cases hd
        · cases h
    | true =>
      rw [(blur_of_tells hd).1]
      exact ⟨.inl, fun h => h.resolve_right fun h => (nomatch h.1)⟩

lemma map_blur_eq_iff {a b : List Char} : a.map (blur host) = b.map (blur host) ↔ Blurred host a b := by
  induction a generalizing b with
  | nil =>
    cases b with
    | nil => exact ⟨fun _ => .nil, fun _ => rfl⟩
    | cons d b => exact ⟨fun h => (nomatch h), fun h => (nomatch h)⟩
  | cons c a ih =>
    cases b with
    | nil => exact ⟨fun h => (nomatch h), fun h => (nomatch h)⟩
    | cons d b =>
      rw [List.map_cons, List.map_cons, List.cons.injEq, blur_eq_iff, ih]
      exact ⟨fun h => .cons h.1 h.2, fun h => by cases h with | cons h hs => exact ⟨h, hs⟩⟩

end Blur

section Paths

variable {host : Host} {scope scope' : LockScope} {r r' : Request} {mode mode' : String}

lemma sanitizeToken_eq (token : String) :
    (sanitizeToken host.isAlnum (some token)).toList = (named token).toList.map (blur host) := by
  unfold sanitizeToken named
  change (if Text.strip token = "" then "none" else _ : String).toList = _
  split_ifs with hempty
  · have hletter : ∀ c ∈ "none".toList, blur host c = c := by
      intro c hc
      have hletters : "none".toList.all (fun c => c.toNat < 128 && c.isAlphanum) = true := by decide +kernel
      have hletter := List.all_eq_true.mp hletters c hc
      rw [Bool.and_eq_true, decide_eq_true_eq] at hletter
      exact if_pos (.inl ((host.ascii c hletter.1).trans hletter.2))
    exact ((List.map_congr_left hletter).trans (List.map_id' _)).symm
  · rw [String.toList_ofList]
    rfl

lemma blur_joined (tokens : List (List Char)) :
    ['_', '_'].intercalate (tokens.map (List.map (blur host))) = (['_', '_'].intercalate tokens).map (blur host) := by
  have hline : ['_', '_'].map (blur host) = ['_', '_'] := by
    have hfixed : blur host '_' = '_' := if_pos (.inr (by simp))
    rw [List.map_cons, List.map_cons, List.map_nil, hfixed]
  induction tokens with
  | nil => rfl
  | cons token tokens ih =>
    cases tokens with
    | nil => simp
    | cons next rest =>
      rw [List.map_cons] at ih
      rw [List.map_cons, List.map_cons, List.intercalate_cons_cons, List.intercalate_cons_cons, List.map_append, List.map_append,
        hline, ih]

lemma lockName_eq : (lockName host scope r mode).toList = (joined (components scope r mode)).map (blur host) ++ ".json".toList := by
  have hline : "__".toList = ['_', '_'] := rfl
  rw [lockName, String.toList_append, String.toList_intercalate, hline, components, joined, ← blur_joined, List.map_map, List.map_map,
    List.map_map]
  refine congrArg (['_', '_'].intercalate · ++ _) (List.map_congr_left fun token _ => ?_)
  simp only [Function.comp_apply]
  exact sanitizeToken_eq token

lemma blur_ne_slash (c : Char) : blur host c ≠ '/' := by
  have hslash : host.isAlnum '/' = false := host.ascii '/' (by decide)
  unfold blur
  split_ifs with hkept
  · rintro rfl
    rw [hslash] at hkept
    simp at hkept
  · decide

lemma lockName_entry : PosixPath.IsEntry (lockName host scope r mode) where
  slash h := by
    rw [lockName_eq, List.mem_append] at h
    rcases h with h | h
    · obtain ⟨c, -, hc⟩ := List.mem_map.mp h
      exact blur_ne_slash c hc
    · simp at h
  nonempty h := by simp [lockName_eq] at h
  dot h := by
    have hlength := congrArg List.length h
    simp [lockName_eq] at hlength

lemma path_eq_iff (hdir : scope.executionLockDir = scope'.executionLockDir) :
    resolveExecutionLockPath host scope r mode = resolveExecutionLockPath host scope' r' mode' ↔
      Blurred host (joined (components scope r mode)) (joined (components scope' r' mode')) := by
  have hsame : lockDir host scope = lockDir host scope' := by rw [lockDir, lockDir, hdir]
  rw [resolveExecutionLockPath, resolveExecutionLockPath, hsame, PosixPath.join_inj lockName_entry lockName_entry, ← String.toList_inj,
    lockName_eq, lockName_eq, List.append_cancel_right_eq, map_blur_eq_iff]

lemma blurred_telling {a b : List Char} (ha : ∀ c ∈ a, tells host c = true ∨ c = '_') (hb : ∀ c ∈ b, tells host c = true ∨ c = '_')
    (h : Blurred host a b) : a = b := by
  induction h with
  | nil => rfl
  | @cons c d a b hcd _ ih =>
    rw [List.forall_mem_cons] at ha hb
    have hsame : c = d := by
      rcases hcd with h | ⟨hc, hd⟩
      · exact h
      · exact (ha.1.resolve_left fun h => (nomatch hc.symm.trans h)).trans
          (hb.1.resolve_left fun h => (nomatch hd.symm.trans h)).symm
    rw [hsame, ih ha.2 hb.2]

lemma append_line_left {a z rest rest' : List Char} (hb : Parted (a ++ z)) (h : ['_', '_'] ++ rest = z ++ (['_', '_'] ++ rest')) :
    z = [] := by
  cases z with
  | nil => rfl
  | cons c z =>
    obtain ⟨rfl, htail⟩ := List.cons.inj h
    cases z with
    | nil => exact absurd ⟨a, [], by simp⟩ hb
    | cons d z =>
      obtain ⟨rfl, -⟩ := List.cons.inj htail
      exact absurd ⟨a, z ++ ['_'], by simp⟩ hb

lemma append_line_inj {a b rest rest' : List Char} (ha : Parted a) (hb : Parted b)
    (h : a ++ (['_', '_'] ++ rest) = b ++ (['_', '_'] ++ rest')) : a = b ∧ rest = rest' := by
  rcases List.append_eq_append_iff.mp h with ⟨z, rfl, hz⟩ | ⟨z, rfl, hz⟩
  · obtain rfl := append_line_left hb hz
    exact ⟨(List.append_nil a).symm, List.append_cancel_left hz⟩
  · obtain rfl := append_line_left ha hz
    exact ⟨List.append_nil b, (List.append_cancel_left hz).symm⟩

lemma intercalate_inj {xs ys : List (List Char)} (hlength : xs.length = ys.length) (hxs : ∀ x ∈ xs, Parted x)
    (hys : ∀ y ∈ ys, Parted y) (h : ['_', '_'].intercalate xs = ['_', '_'].intercalate ys) : xs = ys := by
  induction xs generalizing ys with
  | nil => exact (List.length_eq_zero_iff.mp hlength.symm).symm
  | cons x xs ih =>
    cases ys with
    | nil => cases hlength
    | cons y ys =>
      rw [List.forall_mem_cons] at hxs hys
      have hlength' : xs.length = ys.length := Nat.succ.inj hlength
      cases xs with
      | nil =>
        obtain rfl := List.length_eq_zero_iff.mp hlength'.symm
        rw [List.intercalate_singleton, List.intercalate_singleton] at h
        rw [h]
      | cons x' xs =>
        cases ys with
        | nil => cases hlength'
        | cons y' ys =>
          rw [List.intercalate_cons_cons, List.intercalate_cons_cons, List.append_assoc, List.append_assoc] at h
          obtain ⟨rfl, hrest⟩ := append_line_inj hxs.1 hys.1 h
          rw [ih hlength' hxs.2 hys.2 hrest]

lemma mem_joined {tokens : List String} {c : Char} (h : c ∈ joined tokens) : c = '_' ∨ ∃ token ∈ tokens, c ∈ token.toList := by
  unfold joined at h
  induction tokens with
  | nil => cases h
  | cons token tokens ih =>
    cases tokens with
    | nil =>
      rw [List.map_singleton, List.intercalate_singleton] at h
      exact .inr ⟨token, List.mem_cons_self, h⟩
    | cons next rest =>
      rw [List.map_cons, List.map_cons, List.intercalate_cons_cons, List.mem_append, List.mem_append] at h
      rcases h with (h | h) | h
      · exact .inr ⟨token, List.mem_cons_self, h⟩
      · exact .inl (by simpa using h)
      · exact (ih h).imp_right fun ⟨t, ht, hc⟩ => ⟨t, List.mem_cons_of_mem _ ht, hc⟩

lemma components_length : (components scope r mode).length = 6 := by
  rw [components, List.length_map, List.length_cons, List.length_cons, List.length_cons, List.length_cons, List.length_cons,
    List.length_singleton]

lemma legible_joined {tokens : List String} (h : ∀ token ∈ tokens, Legible host token) :
    ∀ c ∈ joined tokens, tells host c = true ∨ c = '_' := by
  intro c hc
  rcases mem_joined hc with hline | ⟨token, htoken, hmem⟩
  · exact .inr hline
  · exact (h token htoken).1 c hmem

lemma legible_parted {tokens : List String} (h : ∀ token ∈ tokens, Legible host token) :
    ∀ x ∈ tokens.map String.toList, Parted x := by
  intro x hx
  obtain ⟨token, htoken, rfl⟩ := List.mem_map.mp hx
  exact (h token htoken).2

lemma eq_of_blurred {tokens tokens' : List String} (hlength : tokens.length = tokens'.length)
    (htokens : ∀ token ∈ tokens, Legible host token) (htokens' : ∀ token ∈ tokens', Legible host token)
    (h : Blurred host (joined tokens) (joined tokens')) : tokens = tokens' := by
  have hjoined : joined tokens = joined tokens' := blurred_telling (legible_joined htokens) (legible_joined htokens') h
  have hlists : tokens.map String.toList = tokens'.map String.toList :=
    intercalate_inj (by rw [List.length_map, List.length_map, hlength]) (legible_parted htokens) (legible_parted htokens') hjoined
  exact List.map_injective_iff.mpr (fun _ _ => String.toList_inj.mp) hlists

lemma blurred_of_same_path (hdir : scope.executionLockDir = scope'.executionLockDir)
    (h : resolveExecutionLockPath host scope r mode = resolveExecutionLockPath host scope' r' mode') :
    Blurred host (joined (components scope r mode)) (joined (components scope' r' mode')) := (path_eq_iff hdir).mp h

end Paths

section Calls

variable {host : Host} {Id : Type}

def names (c : Call) : Option (List String) := (resolveExecutionMode c.request).toOption.map (components c.scope c.request)

lemma own_of_create {c : Call} {path : PosixPath} {won : Bool} (h : .create path won ∈ c.acts host) : c.lock host = some path := by
  have hleft : Left (c.lock host) (c.run host) := call_left c
  rw [Call.acts] at h
  cases hleft with
  | untried hacts =>
    rw [hacts] at h
    cases h
  | tried own hlock hacts =>
    generalize (c.run host).world.acts = acts at h hacts
    cases hacts with
    | untried => cases h
    | refused =>
      obtain ⟨rfl, -⟩ := Act.create.inj (List.mem_singleton.mp h)
      exact hlock
    | created =>
      obtain ⟨rfl, -⟩ := Act.create.inj (List.mem_singleton.mp h)
      exact hlock
  | locked own hlock hacts =>
    obtain ⟨intents, hacts⟩ := hacts
    rw [hacts] at h
    rcases List.mem_cons.mp h with h | h
    · obtain ⟨rfl, -⟩ := Act.create.inj h
      exact hlock
    · obtain ⟨intent, -, h⟩ := List.mem_map.mp h
      cases h

lemma path_of_lock {c : Call} {path : PosixPath} (h : c.lock host = some path) :
    ∃ mode, resolveExecutionMode c.request = .ok mode ∧ names c = some (components c.scope c.request mode) ∧
      resolveExecutionLockPath host c.scope c.request mode = path := by
  unfold Call.lock at h
  cases hmode : resolveExecutionMode c.request with
  | error e =>
    rw [hmode] at h
    cases h
  | ok mode =>
    rw [hmode] at h
    exact ⟨mode, rfl, by rw [names, hmode]; rfl, Option.some.inj h⟩

lemma refused_by_blurred [DecidableEq Id] {calls : Id → Call}
    (hdir : ∀ i j, (calls i).scope.executionLockDir = (calls j).scope.executionLockDir) {files : PosixPath → Prop}
    {history : List (Id × Act)} (hrun : (CreateOnce.system creates).Run (fun _ => False) history files)
    (hown : ∀ i, project i history <+: (calls i).acts host) {i : Id} {path : PosixPath} (h : (i, .create path false) ∈ history) :
    ∃ j own other, (j, .create path true) ∈ history ∧ names (calls i) = some own ∧ names (calls j) = some other ∧
      Blurred host (joined own) (joined other) := by
  obtain ⟨⟨j, act⟩, hmem, hcreates⟩ := CreateOnce.creator_of_refused hrun id h rfl
  obtain rfl : act = .create path true := by
    cases act with
    | create path won =>
      obtain ⟨rfl, rfl⟩ := Prod.mk.inj (Option.some.inj hcreates)
      rfl
    | submit intent => cases hcreates
  have hlocked {k : Id} {won : Bool} (hk : (k, .create path won) ∈ history) : (calls k).lock host = some path :=
    own_of_create ((hown k).subset (mem_project.mpr hk))
  obtain ⟨mode, -, hnames, hpath⟩ := path_of_lock (hlocked h)
  obtain ⟨mode', -, hnames', hpath'⟩ := path_of_lock (hlocked hmem)
  exact ⟨j, _, _, hmem, hnames, hnames', blurred_of_same_path (hdir i j) (hpath.trans hpath'.symm)⟩

/-- Different scopes have different lock files unless their joined names are blurred into one. -/
theorem lock_files_differ_iff [DecidableEq Id] {calls : Id → Call}
    (hdir : ∀ i j, (calls i).scope.executionLockDir = (calls j).scope.executionLockDir) :
    (∀ scope scope' : LockScope, scope.executionLockDir = scope'.executionLockDir → ∀ r r' mode mode',
      ((components scope r mode ≠ components scope' r' mode' →
          resolveExecutionLockPath host scope r mode ≠ resolveExecutionLockPath host scope' r' mode') ↔
        components scope r mode = components scope' r' mode' ∨
          ¬ Blurred host (joined (components scope r mode)) (joined (components scope' r' mode'))) ∧
      ((∀ token ∈ components scope r mode ++ components scope' r' mode', Legible host token) →
        components scope r mode ≠ components scope' r' mode' →
        resolveExecutionLockPath host scope r mode ≠ resolveExecutionLockPath host scope' r' mode')) ∧
    ∀ (files : PosixPath → Prop) (history : List (Id × Act)),
      (CreateOnce.system creates).Run (fun _ => False) history files →
      (∀ i, project i history <+: (calls i).acts host) →
      ∀ i path, (i, .create path false) ∈ history →
        ∃ j own other, (j, .create path true) ∈ history ∧ names (calls i) = some own ∧ names (calls j) = some other ∧
          Blurred host (joined own) (joined other) := by
  refine ⟨fun scope scope' hsame r r' mode mode' => ?_, fun files history hrun hown i path h =>
    refused_by_blurred hdir hrun hown h⟩
  rw [ne_eq, ne_eq, path_eq_iff hsame]
  refine ⟨by rw [or_iff_not_imp_left], fun htell hne hblurred => hne ?_⟩
  rw [List.forall_mem_append] at htell
  exact eq_of_blurred (by rw [components_length, components_length]) htell.1 htell.2 hblurred

end Calls

section Twins

def twin₀ (spaced : Bool) : Call :=
  { race₀ spaced with scope := ⟨some (if spaced then "us live" else "us_live"), none, none, none⟩ }

def twins₀ : PosixPath := ⟨"/", ["tmp", "ibkr_execution_locks", "us_live__service__growth__live__none__no_snapshot.json"]⟩

def tried₀ : List (Bool × Act) := [(false, .create twins₀ true), (true, .create twins₀ false)]

lemma tried₀_run : (CreateOnce.system creates).Run (fun _ => False) tried₀ fun p => p = twins₀ ∨ False := by
  have hwon : (CreateOnce.system creates).next (fun _ => False) (false, .create twins₀ true) fun p => p = twins₀ ∨ False :=
    ⟨id, rfl⟩
  have hlost : (CreateOnce.system creates).next (fun p => p = twins₀ ∨ False) (true, .create twins₀ false)
      fun p => p = twins₀ ∨ False := ⟨.inl rfl, rfl⟩
  exact ((System.Run.nil _).snoc hwon).snoc hlost

theorem lock_files_differ_iff_sample :
    (∃ j own other, (j, .create twins₀ true) ∈ tried₀ ∧ names (twin₀ true) = some own ∧ names (twin₀ j) = some other ∧
      Blurred host₀ (joined own) (joined other)) ∧
    resolveExecutionLockPath host₀ ⟨some "us-live", none, none, none⟩ (twin₀ true).request "live" ≠
      resolveExecutionLockPath host₀ ⟨some "us.live", none, none, none⟩ (twin₀ true).request "live" := by
  have hdir : ∀ i j, (twin₀ i).scope.executionLockDir = (twin₀ j).scope.executionLockDir := fun _ _ => rfl
  have hown : ∀ i, project i tried₀ <+: (twin₀ i).acts host₀ := by decide +kernel
  have hrefused : (true, .create twins₀ false) ∈ tried₀ := List.mem_cons_of_mem _ List.mem_cons_self
  have h := @lock_files_differ_iff host₀ Bool _ twin₀ hdir
  exact ⟨h.2 _ _ tried₀_run hown true twins₀ hrefused,
    (h.1 ⟨some "us-live", none, none, none⟩ ⟨some "us.live", none, none, none⟩ rfl (twin₀ true).request (twin₀ true).request
      "live" "live").2 (by decide +kernel) (by decide +kernel)⟩

theorem spaced_group_blocked :
    names (twin₀ true) ≠ names (twin₀ false) ∧
      (twin₀ false).acts host₀ = [.create twins₀ true, .submit ⟨"TLT", .buy, 20, some 50, some "U1"⟩] ∧
      (twin₀ true).acts host₀ = [.create twins₀ false] ∧
      ((twin₀ true).run host₀).summary.executionStatus = .blocked ∧
      components ⟨some "main", some "x__y", none, none⟩ (twin₀ true).request "live" ≠
        components ⟨some "main__x", some "y", none, none⟩ (twin₀ true).request "live" ∧
      resolveExecutionLockPath host₀ ⟨some "main", some "x__y", none, none⟩ (twin₀ true).request "live" =
        resolveExecutionLockPath host₀ ⟨some "main__x", some "y", none, none⟩ (twin₀ true).request "live" := by
  decide +kernel

end Twins

end IbkrPlatform.Execution.LockScopes
