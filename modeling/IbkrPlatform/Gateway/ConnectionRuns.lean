import IbkrPlatform.Gateway.Connection

/-! What a connection asks for, whatever it is answered, and how it ends. -/

namespace IbkrPlatform.Gateway

open Library Procedure

abbrev History := List (Ask × Answer)

section Views

def isConnect : Ask → Bool
  | .connect .. => true
  | _ => false

def isProbe : Ask → Bool
  | .probe .. => true
  | _ => false

def tries (h : History) : ℕ := h.countP fun x => isConnect x.1

def current : History → History
  | [] => []
  | x :: h => if isConnect x.1 then [x] else x :: current h

def held : History → Option Client
  | [] => none
  | (.connect .., .client ib) :: _ => some ib
  | (.connect .., _) :: _ => none
  | (.disconnect _, _) :: _ => none
  | _ :: h => held h

def resolved : History → Option String
  | [] => none
  | (.hostResolver, .host name) :: _ => some name
  | (.refreshHost, .host name) :: _ => some name
  | _ :: h => resolved h

def Free (h : History) : Prop := ∀ ib ∈ held h, ib.disconnects = false

def interrupts : Ask × Answer → Bool
  | (.connect .., .raised e) => e.isOs
  | (.managedAccounts _, .raised e) => e.isOs
  | (.disconnect _, .raised e) => e.isOs
  | (.probe ib _, r) =>
    match heard ib r with
    | (evidence, .raised e) => e.isOs && !evidence && (decide (e.kind = .timeout) || !isReadOnlyError e.message)
    | _ => false
  | _ => false

def Interrupted (h : History) (e : Exc) : Prop := ∃ x ∈ current h, interrupts x = true ∧ x.2.error? = some e

def Writable (beyond : Char → List Char) : Probed → Prop
  | .raised e => e.isOs = false ∧ isReadOnlyError e.message = false ∧ isMarginProbeRejection beyond e.message = true
  | .nothing => False
  | .response warningText => isReadOnlyError warningText = false

def Accepts (beyond : Char → List Char) (ib : Client) (r : Answer) : Prop := (heard ib r).1 = false ∧ Writable beyond (heard ib r).2

end Views

section Requirements

variable (beyond : Char → List Char) (a : Adapters) (validate redact : Bool)

def Verified (ib : Client) (h : History) : Prop :=
  if a.accountIds = [] then isLive a = false
  else ib.managedAccounts = true → ∃ ids, (.managedAccounts ib, .accounts ids) ∈ current h ∧
    ∀ id ∈ a.accountIds, Text.strip id ∈ ids.map Text.strip

def Probing : Prop := validate = true ∧ a.dryRunOnly = false ∧ isLive a = true

def Passed (ib : Client) (h : History) : Prop :=
  Probing a validate → ∃ r, (.probe ib (armed a ib ib.options), r) ∈ current h ∧ Accepts beyond ib r

def Redacted (h : History) (line : String) : Prop :=
  line = "Connecting to IB gateway (connection_details_redacted=true, " ++ progress a (tries h + 1) ++ ")" ∨
  (∃ e, Interrupted h e ∧
    line = "IB gateway read-only connection attempt failed (" ++ progress a (tries h) ++ ", error_type=" ++ e.name ++ ")") ∨
  ∃ r older, h = (.refreshHost, r) :: older ∧
    line = "IB gateway read-only host refresh failed (error_type=" ++ r.fault.name ++ ")"

def ok (h : History) : Ask → Prop
  | .printer line => redact = true → Redacted a h line
  | .connect host port number timeout readonly => Free h ∧ tries h < a.connectAttempts ∧ (0 < tries h → ∃ e, Interrupted h e) ∧
    resolved h = some host ∧ port = a.ibPort ∧ number = a.ibClientId + tries h * a.clientIdRetryOffset ∧
    timeout = a.connectTimeoutSeconds ∧ readonly = a.readonly
  | .managedAccounts ib => held h = some ib ∧ a.accountIds ≠ []
  | .probe ib o => held h = some ib ∧ Verified a ib h ∧ Probing a validate ∧ o = armed a ib ib.options ∧
    ∀ x ∈ current h, isProbe x.1 = false
  | .disconnect ib => held h = some ib
  | _ => Free h

def Connected (ib : Client) (h : History) (o : Options) : Prop :=
  held h = some ib ∧ o = ib.options ∧ Verified a ib h ∧ Passed beyond a validate ib h

end Requirements

section Facts

variable {beyond : Char → List Char} {a : Adapters} {h : History} {q : Ask} {r : Answer} {e : Exc}

def isQuiet : Ask → Bool
  | .ensureEventLoop | .printer _ | .sleep _ | .managedAccounts _ | .probe .. => true
  | _ => false

lemma tries_cons (x : Ask × Answer) : tries (x :: h) = tries h + if isConnect x.1 then 1 else 0 := List.countP_cons

lemma isConnect_of_quiet (hq : isQuiet q = true) : isConnect q = false := by
  cases q <;> first | rfl | cases hq

lemma tries_quiet (hq : isQuiet q = true) : tries ((q, r) :: h) = tries h := by
  rw [tries_cons, isConnect_of_quiet hq]
  rfl

lemma current_cons (hq : isConnect q = false) : current ((q, r) :: h) = (q, r) :: current h := by
  rw [current, if_neg (by simp [hq])]

lemma mem_current (hq : isConnect q = false) : (q, r) ∈ current ((q, r) :: h) := current_cons hq ▸ List.mem_cons_self

lemma mem_current_cons {x : Ask × Answer} (hq : isConnect q = false) (hx : x ∈ current h) : x ∈ current ((q, r) :: h) :=
  current_cons hq ▸ List.mem_cons_of_mem _ hx

lemma held_quiet (hq : isQuiet q = true) : held ((q, r) :: h) = held h := by
  cases q <;> first | rfl | cases hq

lemma resolved_quiet (hq : isQuiet q = true) : resolved ((q, r) :: h) = resolved h := by
  cases q <;> first | rfl | cases hq

lemma Interrupted.cons (hi : Interrupted h e) (hq : isConnect q = false) : Interrupted ((q, r) :: h) e := by
  obtain ⟨x, hx, hi⟩ := hi
  exact ⟨x, mem_current_cons hq hx, hi⟩

lemma error?_of_heard {ib : Client} (hh : (heard ib r).2 = .raised e) (he : e.isOs = true) : r.error? = some e := by
  cases r with
  | probed errors result =>
    change result = .raised e at hh
    rw [hh]
    rfl
  | raised f =>
    cases hh
    rfl
  | _ =>
    cases hh
    cases he

lemma raised_of_isOs (he : r.fault.isOs = true) : r = .raised r.fault := by
  cases r <;> first | rfl | cases he

lemma judged_error {evidence : Bool} {result : Probed} (hj : judged beyond evidence result = .error e) (he : e.isOs = true) :
    result = .raised e ∧ evidence = false ∧ (e.kind = .timeout ∨ isReadOnlyError e.message = false) := by
  have hmode : readOnlyMode.isOs = false := rfl
  have hexplained : ∀ f, explained beyond evidence f = .error e →
      f = e ∧ evidence = false ∧ (e.kind = .timeout ∨ isReadOnlyError e.message = false) := by
    intro f hf
    unfold explained at hf
    split_ifs at hf with h₁ h₂ h₃ h₄
    all_goals cases hf
    · rw [hmode] at he
      cases he
    · exact ⟨rfl, by simpa using h₂, .inl h₁⟩
    · rw [hmode] at he
      cases he
    · simp only [Bool.or_eq_true, not_or, Bool.not_eq_true] at h₄
      exact ⟨rfl, h₄.1, .inr h₄.2⟩
    · rw [hmode] at he
      cases he
    · cases he
  unfold judged at hj
  cases result with
  | raised f =>
    obtain ⟨rfl, hrest⟩ := hexplained f hj
    exact ⟨rfl, hrest⟩
  | nothing =>
    obtain ⟨rfl, -⟩ := hexplained _ hj
    cases he
  | response text =>
    rw [examined] at hj
    split_ifs at hj with hro
    · obtain ⟨rfl, -⟩ := hexplained _ hj
      rw [hmode] at he
      cases he

lemma noResponse_unmargined :
    isMarginProbeRejection beyond "IB Gateway what-if permission probe returned no broker response." = false := by
  have hupper : Text.upper beyond "IB Gateway what-if permission probe returned no broker response." =
      Text.upper (fun c => [c]) "IB Gateway what-if permission probe returned no broker response." := by
    have hascii : "IB Gateway what-if permission probe returned no broker response.".toList.all (·.toNat < 128) = true := by
      decide
    have hsmall := fun c hc => of_decide_eq_true (List.all_eq_true.mp hascii c hc)
    unfold Text.upper
    rw [List.flatMap_congr fun c hc => (if_pos (hsmall c hc)).trans (if_pos (hsmall c hc)).symm]
  unfold isMarginProbeRejection
  rw [hupper]
  decide

lemma readOnlyMode_read : isReadOnlyError readOnlyMode.message = true := by decide

lemma judged_ok {evidence : Bool} {result : Probed} (hj : judged beyond evidence result = .ok ()) :
    evidence = false ∧ Writable beyond result := by
  have hexplained : ∀ f, explained beyond evidence f = .ok () →
      evidence = false ∧ f.isOs = false ∧ isReadOnlyError f.message = false ∧ isMarginProbeRejection beyond f.message = true := by
    intro f hf
    unfold explained at hf
    split_ifs at hf with h₁ h₂ h₃ h₄
    simp only [Bool.or_eq_true, not_or, Bool.not_eq_true] at h₃
    exact ⟨h₃.1, by simpa using h₂, h₃.2, h₄⟩
  unfold judged at hj
  cases result with
  | raised f => exact hexplained f hj
  | nothing =>
    obtain ⟨-, -, -, hmargin⟩ := hexplained _ hj
    exact absurd (hmargin.symm.trans noResponse_unmargined) (by simp)
  | response text =>
    rw [examined] at hj
    split_ifs at hj with hro
    · have hread := (hexplained _ hj).2.2.1
      rw [readOnlyMode_read] at hread
      cases hread
    · simpa [Writable] using hro

end Facts

section Course

variable {beyond : Char → List Char} {a : Adapters} {validate redact : Bool} {A B : Type} {n : ℕ} {host : String} {ib : Client}
  {P : History → Options → Prop} {q : Ask}

def Does (a : Adapters) (validate redact : Bool) (P : History → Options → Prop) (x : Connecting A)
    (Q : A → History → Options → Prop) (E : Exc → History → Options → Prop) : Prop :=
  Triple (fun _ => True) (ok a validate redact) P x Q E

structure Between (n : ℕ) (host : String) (h : History) : Prop where
  tries : tries h = n
  free : Free h
  resolved : resolved h = some host
  interrupted : 0 < n → ∃ e, Interrupted h e

structure Having (ib : Client) (n : ℕ) (host : String) (h : History) : Prop where
  held : held h = some ib
  tries : tries h = n + 1
  resolved : resolved h = some host

structure Missed (n : ℕ) (host : String) (e : Exc) (h : History) : Prop where
  tries : tries h = n + 1
  resolved : resolved h = some host
  interrupted : e.isOs = true → Interrupted h e

def Unprobed (h : History) : Prop := ∀ x ∈ current h, isProbe x.1 = false

def Lost (a : Adapters) (h : History) : Prop := Free h ∧ tries h ≤ a.connectAttempts

lemma does_call {Q : Unit → History → Options → Prop} {E : Exc → History → Options → Prop}
    (hq : ∀ h o, P h o → ok a validate redact h q ∧ Q () ((q, .done) :: h) o ∧ ∀ r, E r.fault ((q, r) :: h) o) :
    Does a validate redact P (call q) Q E := by
  refine fun h o hp => holds_bind.mpr (holds_ask.mpr ⟨(hq h o hp).1, fun r _ => ?_⟩)
  cases r with
  | done => exact (hq h o hp).2.1
  | _ => exact (hq h o hp).2.2 _

lemma Between.quiet {h : History} {r : Answer} (hb : Between n host h) (hq : isQuiet q = true) : Between n host ((q, r) :: h) := by
  refine ⟨(tries_quiet hq).trans hb.tries, ?_, (resolved_quiet hq).trans hb.resolved, fun hn => ?_⟩
  · rw [Free, held_quiet hq]
    exact hb.free
  · exact (hb.interrupted hn).imp fun e hi => hi.cons (isConnect_of_quiet hq)

lemma Having.quiet {h : History} {r : Answer} (hb : Having ib n host h) (hq : isQuiet q = true) : Having ib n host ((q, r) :: h) :=
  ⟨(held_quiet hq).trans hb.held, (tries_quiet hq).trans hb.tries, (resolved_quiet hq).trans hb.resolved⟩

lemma does_connect (hn : n < a.connectAttempts) :
    Does a validate redact (fun h _ => Between n host h) (connectIbFn a host (clientId a (n + 1)))
      (fun ib h o => Having ib n host h ∧ Unprobed h ∧ o = ib.options) fun e h _ => Missed n host e h ∧ Free h := by
  intro h o hb
  have hnumber : clientId a (n + 1) = a.ibClientId + tries h * a.clientIdRetryOffset := by simp [clientId, hb.tries]
  have htries : ∀ r, tries ((.connect host a.ibPort (clientId a (n + 1)) a.connectTimeoutSeconds a.readonly, r) :: h) = n + 1 := by
    intro r
    rw [tries_cons, hb.tries]
    rfl
  refine holds_bind.mpr (holds_ask.mpr ⟨⟨hb.free, hb.tries ▸ hn, hb.tries ▸ hb.interrupted, hb.resolved, rfl, hnumber, rfl, rfl⟩,
    fun r _ => ?_⟩)
  cases r with
  | client ib =>
    refine ⟨⟨rfl, htries _, hb.resolved⟩, fun x hx => ?_, rfl⟩
    obtain rfl := List.mem_singleton.mp hx
    rfl
  | _ =>
    refine ⟨⟨htries _, hb.resolved, fun he => ⟨_, List.mem_singleton_self _, ?_⟩⟩, fun ib hib => nomatch hib⟩
    have hraised := raised_of_isOs he
    rw [hraised]
    exact ⟨he, rfl⟩

lemma not_isOs {e : Exc} (hk : e.kind = .other ∨ e.kind = .permission) (he : e.isOs = true) : False := by
  rcases hk with hk | hk <;> simp [Exc.isOs, hk] at he

def Refused (ib : Client) (n : ℕ) (host : String) (e : Exc) (h : History) : Prop :=
  Having ib n host h ∧ (e.isOs = true → Interrupted h e)

lemma does_accounts : Does a validate redact (fun h o => Having ib n host h ∧ Unprobed h ∧ o = ib.options)
    (validateConfiguredAccounts a ib) (fun _ h o => (Having ib n host h ∧ Unprobed h ∧ o = ib.options) ∧ Verified a ib h)
    fun e h o => Refused ib n host e h ∧ o = ib.options := by
  unfold validateConfiguredAccounts
  split_ifs with hnone hlive hmanaged
  · exact triple_throw fun h o hp => ⟨⟨hp.1, fun he => (not_isOs (.inl rfl) he).elim⟩, hp.2.2⟩
  · refine triple_pure fun h o hp => ⟨hp, ?_⟩
    rw [Verified, if_pos hnone]
    simpa using hlive
  · refine triple_pure fun h o hp => ⟨hp, ?_⟩
    rw [Verified, if_neg hnone]
    exact fun hm => absurd hm (by simpa using hmanaged)
  · rintro h o ⟨hb, hu, ho⟩
    refine holds_bind.mpr (holds_bind.mpr (holds_ask.mpr ⟨⟨hb.held, hnone⟩, fun r _ => ?_⟩))
    have hquiet : isQuiet (.managedAccounts ib) = true := rfl
    have hunprobed : Unprobed ((.managedAccounts ib, r) :: h) := by
      rw [Unprobed, current_cons rfl]
      exact List.forall_mem_cons.mpr ⟨rfl, hu⟩
    cases r with
    | accounts ids =>
      change Holds _ _ (if missingAccounts a ids = [] then pure () else _) _ _ _ _
      split_ifs with hmissing
      · refine ⟨⟨hb.quiet hquiet, hunprobed, ho⟩, ?_⟩
        rw [Verified, if_neg hnone]
        refine fun _ => ⟨ids, mem_current rfl, fun id hid => ?_⟩
        simpa using List.filter_eq_nil_iff.mp hmissing id hid
      · exact ⟨⟨hb.quiet hquiet, fun he => (not_isOs (.inl rfl) he).elim⟩, ho⟩
    | raised e =>
      exact ⟨⟨hb.quiet hquiet, fun he => ⟨_, mem_current rfl, he, rfl⟩⟩, ho⟩
    | _ => exact ⟨⟨hb.quiet hquiet, fun he => nomatch he⟩, ho⟩

lemma disarmed_armed (ib : Client) (o : Options) : disarmed ib o (armed a ib o) = o := by
  unfold disarmed armed
  cases ib.errorEvent <;> rfl

lemma does_permissions (hv : validate = true) :
    Does a validate redact (fun h o => (Having ib n host h ∧ Unprobed h ∧ o = ib.options) ∧ Verified a ib h)
      (validateTradingPermissions a beyond ib)
      (fun _ h o => (Having ib n host h ∧ o = ib.options) ∧ Verified a ib h ∧ Passed beyond a validate ib h)
      fun e h o => Refused ib n host e h ∧ o = ib.options := by
  unfold validateTradingPermissions
  split_ifs with hskip hprobes
  · refine triple_pure fun h o hp => ⟨⟨hp.1.1, hp.1.2.2⟩, hp.2, fun hprobing => ?_⟩
    rw [hprobing.2.1, hprobing.2.2] at hskip
    cases hskip
  · exact triple_throw fun h o hp => ⟨⟨hp.1.1, fun he => (not_isOs (.inr rfl) he).elim⟩, hp.1.2.2⟩
  · have hprobing : Probing a validate := by
      simp only [Bool.or_eq_true, not_or, Bool.not_eq_true, Bool.not_eq_false'] at hskip
      exact ⟨hv, hskip.1, hskip.2⟩
    refine triple_get fun original => triple_ensuring ?_
    rintro h o ⟨⟨⟨hb, hu, rfl⟩, hverified⟩, rfl⟩
    refine holds_bind.mpr (holds_modify.mpr (holds_bind.mpr (holds_get.mpr (holds_bind.mpr (holds_ask.mpr
      ⟨⟨hb.held, hverified, hprobing, rfl, hu⟩, fun r _ => ?_⟩)))))
    have hquiet : isQuiet (.probe ib (armed a ib ib.options)) = true := rfl
    have hmem : (.probe ib (armed a ib ib.options), r) ∈ current ((.probe ib (armed a ib ib.options), r) :: h) :=
      mem_current rfl
    have hraise : Does a validate redact (fun h' o => h' = (.probe ib (armed a ib ib.options), r) :: h ∧ o = armed a ib ib.options)
        (raiseFrom (judged beyond (heard ib r).1 (heard ib r).2))
        (fun _ h o => (Having ib n host h ∧ disarmed ib ib.options o = ib.options) ∧ Verified a ib h ∧ Passed beyond a validate ib h)
        fun e h o => Refused ib n host e h ∧ disarmed ib ib.options o = ib.options := by
      refine triple_raiseFrom ?_ ?_
      · rintro ⟨⟩ hjudged _ _ ⟨rfl, rfl⟩
        refine ⟨⟨hb.quiet hquiet, disarmed_armed ib _⟩, ?_, fun _ => ⟨r, hmem, judged_ok hjudged⟩⟩
        rw [Verified] at hverified ⊢
        split_ifs at hverified ⊢ with hnone
        · exact hverified
        · exact fun hm => (hverified hm).imp fun ids hids => ⟨mem_current_cons rfl hids.1, hids.2⟩
      · rintro e hjudged _ _ ⟨rfl, rfl⟩
        refine ⟨⟨hb.quiet hquiet, fun he => ⟨_, hmem, ?_⟩⟩, disarmed_armed ib _⟩
        obtain ⟨hresult, hevidence, hkind⟩ := judged_error hjudged he
        have hheard : heard ib r = (false, .raised e) := Prod.ext hevidence hresult
        refine ⟨?_, error?_of_heard hresult he⟩
        simp only [interrupts, hheard, he, Bool.not_false, Bool.and_true, Bool.true_and, Bool.or_eq_true, decide_eq_true_eq,
          Bool.not_eq_true']
        exact hkind
    exact hraise _ _ ⟨rfl, rfl⟩

lemma does_checked : Does a validate redact (fun h o => Having ib n host h ∧ Unprobed h ∧ o = ib.options)
    (checked beyond a validate ib)
    (fun _ h o => (Having ib n host h ∧ o = ib.options) ∧ Verified a ib h ∧ Passed beyond a validate ib h)
    fun e h o => Refused ib n host e h ∧ o = ib.options := by
  refine triple_bind does_accounts fun _ => ?_
  split_ifs with hv
  · exact does_permissions hv
  · exact triple_pure fun h o hp => ⟨⟨hp.1.1, hp.1.2.2⟩, hp.2, fun hprobing => absurd hprobing.1 hv⟩

lemma does_tryConnect (hn : n < a.connectAttempts) :
    Does a validate redact (fun h _ => Between n host h) (tryConnect beyond a validate host (n + 1))
      (fun ib h o => tries h ≤ a.connectAttempts ∧ Connected beyond a validate ib h o) fun e h _ => Missed n host e h ∧ Free h := by
  refine triple_bind (does_connect hn) fun ib => ?_
  refine triple_bind (Q := fun _ h o => (Having ib n host h ∧ o = ib.options) ∧ Verified a ib h ∧ Passed beyond a validate ib h)
    (triple_tryCatch does_checked fun e => ?_) fun _ => triple_pure ?_
  · split_ifs with hd
    · refine triple_bind (Q := fun _ h _ => Missed n host e h ∧ Free h) (does_call ?_) fun _ => triple_throw fun h o hp => hp
      rintro h o ⟨⟨hb, hi⟩, -⟩
      have htries : ∀ r, tries ((.disconnect ib, r) :: h) = n + 1 := fun r => (tries_cons _).trans hb.tries
      have hfree : ∀ r, Free ((.disconnect ib, r) :: h) := fun r ib' hib => nomatch hib
      refine ⟨hb.held, ⟨⟨htries _, hb.resolved, fun he => (hi he).cons rfl⟩, hfree _⟩, fun r => ⟨⟨htries _, hb.resolved, ?_⟩, hfree _⟩⟩
      intro he
      have hraised := raised_of_isOs he
      rw [hraised]
      exact ⟨_, mem_current rfl, he, rfl⟩
    · refine triple_throw fun h o hp => ⟨⟨hp.1.1.tries, hp.1.1.resolved, hp.1.2⟩, fun ib' hib => ?_⟩
      obtain rfl := Option.some.inj (hp.1.1.held.symm.trans hib)
      simpa using hd
  · rintro h o ⟨⟨hb, ho⟩, hverified, hpassed⟩
    exact ⟨hb.tries ▸ hn, hb.held, ho, hverified, hpassed⟩

lemma Missed.between {h : History} {e : Exc} (hm : Missed n host e h) (hf : Free h) (he : e.isOs = true) : Between (n + 1) host h :=
  ⟨hm.tries, hf, hm.resolved, fun _ => ⟨e, hm.interrupted he⟩⟩

lemma redacted_failed {h : History} {e : Exc} (ht : tries h = n) (hi : Interrupted h e) :
    redact = true → Redacted a h (failedLine a redact n e) := by
  rintro rfl
  exact .inr (.inl ⟨e, hi, ht ▸ rfl⟩)

lemma redacted_connecting {h : History} (ht : tries h = n) : redact = true → Redacted a h (connectingLine a redact host (n + 1)) := by
  rintro rfl
  exact .inl (ht ▸ rfl)

lemma redacted_refresh {h : History} {r : Answer} :
    redact = true → Redacted a ((.refreshHost, r) :: h) (refreshLine redact host r.fault) := by
  rintro rfl
  exact .inr (.inr ⟨r, h, rfl, rfl⟩)

lemma Between.lost {h : History} (hb : Between n host h) (hn : n ≤ a.connectAttempts) : Lost a h := ⟨hb.free, hb.tries ▸ hn⟩

lemma does_quiet_of {F : History → Prop} (hn : n ≤ a.connectAttempts) (hq : isQuiet q = true)
    (hok : ∀ h, Between n host h → F h → ok a validate redact h q) :
    Does a validate redact (fun h _ => Between n host h ∧ F h) (call q) (fun _ h _ => Between n host h) fun _ h _ => Lost a h :=
  does_call fun h _ hb => ⟨hok h hb.1 hb.2, hb.1.quiet hq, fun _ => (hb.1.quiet hq).lost hn⟩

lemma does_quiet (hn : n ≤ a.connectAttempts) (hq : isQuiet q = true) (hok : ∀ h, Between n host h → ok a validate redact h q) :
    Does a validate redact (fun h _ => Between n host h) (call q) (fun _ h _ => Between n host h) fun _ h _ => Lost a h :=
  fun h o hb => does_quiet_of (F := fun _ => True) hn hq (fun h hb _ => hok h hb) h o ⟨hb, trivial⟩

lemma does_refreshedHost (hn : n ≤ a.connectAttempts) :
    Does a validate redact (fun h _ => Between n host h) (refreshedHost a redact host) (fun host h _ => Between n host h)
      fun _ h _ => Lost a h := by
  unfold refreshedHost
  split_ifs with hrefreshes
  · exact triple_pure fun h o hb => hb
  have hask : Does a validate redact (fun h _ => Between n host h) (askHost .refreshHost) (fun host h _ => Between n host h)
      fun e h _ => Between n host h ∧ ∃ r older, h = (.refreshHost, r) :: older ∧ r.fault = e := by
    refine fun h o hb => holds_bind.mpr (holds_ask.mpr ⟨hb.free, fun r _ => ?_⟩)
    have hi : 0 < n → ∃ e, Interrupted ((.refreshHost, r) :: h) e := fun hn => (hb.interrupted hn).imp fun e hi => hi.cons rfl
    have htries : tries ((.refreshHost, r) :: h) = n := (tries_cons _).trans hb.tries
    cases r with
    | host name => exact ⟨htries, hb.free, rfl, hi⟩
    | _ => exact ⟨⟨htries, hb.free, hb.resolved, hi⟩, _, h, rfl, rfl⟩
  refine triple_bind (triple_caught hask) fun r => ?_
  cases r with
  | ok name => exact triple_pure fun h o hb => hb
  | error e =>
    change Triple _ _ _ (if e.kind = .gatewayUnavailable then throw e else _) _ _
    split_ifs with hk
    · exact triple_throw fun h o hb => hb.1.lost hn
    · refine triple_bind (does_quiet_of hn rfl ?_) fun _ => triple_pure fun h o hb => hb
      rintro h - ⟨r, older, rfl, rfl⟩
      exact redacted_refresh

lemma does_prepareRetry {left : ℕ} (hn : n ≤ a.connectAttempts) :
    Does a validate redact (fun h _ => Between n host h) (prepareRetry a redact left host) (fun host h _ => Between n host h)
      fun _ h _ => Lost a h := by
  unfold prepareRetry
  split_ifs with hleft hdelay
  · exact triple_pure fun h o hb => hb
  · refine triple_bind (does_refreshedHost hn) fun name => ?_
    exact triple_bind (does_quiet hn rfl fun h hb => hb.free) fun _ => triple_pure fun h o hb => hb
  · exact triple_bind (does_refreshedHost hn) fun name => triple_pure fun h o hb => hb

lemma does_attempts {left : ℕ} {lastError : Option Exc} (hn : n + left = a.connectAttempts) :
    Does a validate redact (fun h _ => Between n host h) (attempts beyond a validate redact left (n + 1) host lastError)
      (fun ib h o => tries h ≤ a.connectAttempts ∧ Connected beyond a validate ib h o) fun _ h _ => Lost a h := by
  induction left generalizing n host lastError with
  | zero => exact triple_throw fun h o hb => hb.lost (by omega)
  | succ left ih =>
    refine triple_bind (does_quiet (by omega) rfl fun h hb => redacted_connecting hb.tries) fun _ => ?_
    refine triple_bind (triple_caught (does_tryConnect (by omega))) fun r => ?_
    cases r with
    | ok ib => exact triple_pure fun h o hp => hp
    | error e =>
      change Triple _ _ _ (if (!e.isOs) = true then throw e else _) _ _
      split_ifs with he
      · exact triple_throw fun h o hp => ⟨hp.2, hp.1.tries ▸ by omega⟩
      have hos : e.isOs = true := by simpa using he
      have hline : Does a validate redact (fun h _ => Between (n + 1) host h ∧ Interrupted h e)
          (call (.printer (failedLine a redact (n + 1) e))) (fun _ h _ => Between (n + 1) host h) fun _ h _ => Lost a h :=
        does_quiet_of (by omega) rfl fun h hb hi => redacted_failed hb.tries hi
      refine triple_bind (hline.mono (fun h o hp => ⟨hp.1.between hp.2 hos, hp.1.interrupted hos⟩) (fun _ _ _ hq => hq)
        fun _ _ _ he => he) fun _ => ?_
      exact triple_bind (does_prepareRetry (by omega)) fun host => ih (by omega)

lemma does_connectIb : Does a validate redact (fun h _ => h = []) (a.connectIb beyond validate redact)
    (fun ib h o => tries h ≤ a.connectAttempts ∧ Connected beyond a validate ib h o) fun _ h _ => Lost a h := by
  have hfree : Free [] := fun ib hib => nomatch hib
  refine triple_bind (Q := fun _ h _ => tries h = 0 ∧ Free h) (does_call ?_) fun _ => ?_
  · rintro h o rfl
    exact ⟨hfree, ⟨rfl, hfree⟩, fun r => ⟨hfree, Nat.zero_le _⟩⟩
  · refine triple_bind (Q := fun host h _ => Between 0 host h) ?_ fun host => does_attempts (by omega)
    refine fun h o hp => holds_bind.mpr (holds_ask.mpr ⟨hp.2, fun r _ => ?_⟩)
    have htries : tries ((.hostResolver, r) :: h) = 0 := (tries_cons _).trans hp.1
    cases r with
    | host name => exact ⟨htries, hp.2, rfl, fun hn => absurd hn (by omega)⟩
    | _ => exact ⟨hp.2, htries ▸ Nat.zero_le _⟩

end Course

section Service

variable (beyond : Char → List Char) (r : Runtime) (readOnly validate : Bool)

def Guarded (h : History) (q : Ask) : Prop :=
  ok (adaptersFor r readOnly) validate readOnly h q ∧ match q with
    | .connect _ _ number _ readonly => readonly = (readOnly || r.dryRunOnly) ∧ (readOnly = true → tries h = 0 ∧ 0 < number)
    | .probe .. => readOnly = false ∧ r.dryRunOnly = false
    | _ => True

variable {r readOnly validate}

lemma guarded_of_ok {h : History} {q : Ask} (hclient : readOnly = true → 0 < r.ibClientId)
    (hok : ok (adaptersFor r readOnly) validate readOnly h q) : Guarded r readOnly validate h q := by
  refine ⟨hok, ?_⟩
  cases q with
  | connect host port number timeout readonly =>
    obtain ⟨-, htries, -, -, -, rfl, -, rfl⟩ := hok
    cases readOnly with
    | false => exact ⟨rfl, fun h => nomatch h⟩
    | true =>
      have hnone : tries h = 0 := Nat.lt_one_iff.mp htries
      refine ⟨rfl, fun _ => ⟨hnone, ?_⟩⟩
      simpa [hnone, adaptersFor, buildBrokerAdapters] using hclient rfl
  | probe ib o =>
    have hdry := hok.2.2.1.2.1
    cases readOnly with
    | false => exact ⟨rfl, hdry⟩
    | true => cases hdry
  | _ => trivial

/-- However the gateway answers, a connection asks only what it may, and ends with a client that passed its checks or with none. -/
theorem connections_guarded (r : Runtime) (readOnly validate : Bool) (o : Options) :
    Holds (fun _ => True) (Guarded r readOnly validate) (connectIb beyond r readOnly validate)
      (fun ib h o => tries h ≤ (adaptersFor r readOnly).connectAttempts ∧ Connected beyond (adaptersFor r readOnly) validate ib h o)
      (fun _ h _ => Lost (adaptersFor r readOnly) h) [] o := by
  have hlost : Lost (adaptersFor r readOnly) [] := ⟨fun ib hib => (nomatch hib), Nat.zero_le _⟩
  unfold connectIb requireGatewayExecutionBackend
  split_ifs with hbackend hclient hclient
  · exact hlost
  · exact hlost
  · exact hlost
  · refine Dialogue.Upholds.imp (fun h q => guarded_of_ok fun hr => ?_) (does_connectIb [] o rfl)
    rw [hr, Bool.true_and, decide_eq_true_eq] at hclient
    omega

end Service

end IbkrPlatform.Gateway
