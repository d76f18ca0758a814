import Acme.Proofs.Run.Failures
import Acme.Proofs.Run.Follows
import Acme.Proofs.Run.Grants

/-!
# The provenance of the files

Before a run makes its first call on the files of a certificate, the CA has authorized every domain,
in order and in one pass, and has issued the certificate on a request that was made with the key to
be written (`Warrant`, `run_provenance`).
-/

namespace Acme.Run

variable {config : Config} {client : Client}

/-! ## Before the certificate is issued -/

/-- No call on the files is made, and the domains do not begin to be authorized. -/
def isCalm : Deed → Bool
  | .other (.changed _ _) => false
  | .other (.entered .authStart) => false
  | _ => true

/-- Failures that come after the key of the certificate has been written. -/
def isLate : Failure → Bool
  | .certificateWrite _ _ => true
  | .intermediateFetch _ _ => true
  | .intermediateWrite _ _ => true
  | _ => false

theorem isLate_of_isOnline {f : Failure} (h : isOnline f = true) : isLate f = false := by
  cases f <;> first | rfl | cases h

/-- A part of a run is calm, and if it fails then not late. -/
structure Calm {α : Type} (ds : List Deed) (r : Except Failure α) : Prop where
  deeds : ds.all isCalm = true
  early : ∀ f, r = .error f → isLate f = false

namespace Calm

variable {α β : Type} {ds es : List Deed} {r : Except Failure α} {x : β} {f : Failure}

theorem ok (hds : ds.all isCalm = true) (x : α) : Calm ds (.ok x : Except Failure α) :=
  ⟨hds, fun _ h => (by cases h)⟩

theorem error (hds : ds.all isCalm = true) (hf : isLate f = false) :
    Calm ds (.error f : Except Failure α) := by
  refine ⟨hds, fun f' h => ?_⟩
  cases h
  exact hf

theorem append (h : Calm ds (.ok x)) (h' : Calm es r) : Calm (ds ++ es) r := by
  refine ⟨?_, h'.early⟩
  rw [List.all_append, h.deeds, h'.deeds]
  rfl

theorem failed (h : Calm ds (.error f : Except Failure β)) :
    Calm ds (.error f : Except Failure α) := by
  refine ⟨h.deeds, fun f' hf => ?_⟩
  cases hf
  exact h.early f rfl

theorem cons {deed : Deed} (hd : isCalm deed = true) (h : Calm ds r) : Calm (deed :: ds) r := by
  refine ⟨?_, h.early⟩
  rw [List.all_cons, hd, h.deeds]
  rfl

end Calm

theorem callsOf_of_isCalm {ds : List Deed} (h : ds.all isCalm = true) : callsOf ds = [] := by
  refine List.filterMap_eq_nil_iff.2 fun deed hmem => ?_
  have hdeed := List.all_eq_true.1 h deed hmem
  cases deed with
  | asked t => rfl
  | other event =>
    cases event with
    | changed step fault => cases hdeed
    | _ => rfl

theorem authStart_notMem_of_isCalm {ds : List Deed} (h : ds.all isCalm = true) :
    Phase.authStart ∉ phasesOf ds := by
  intro hmem
  obtain ⟨deed, hdeed, hphase⟩ := List.mem_filterMap.1 hmem
  have hcalm := List.all_eq_true.1 h deed hdeed
  cases deed with
  | asked t => cases hphase
  | other event =>
    cases event with
    | entered phase =>
      cases hphase
      cases hcalm
    | _ => cases hphase

theorem Registering.calm {ds : List Deed} {r : Except Failure Unit}
    (h : Registering config client ds r) : Calm ds r := by
  cases h with
  | homeless => exact .error rfl rfl
  | @asked _ t =>
    refine ⟨rfl, fun f hf => ?_⟩
    rw [Turn.tolerated] at hf
    split at hf <;> cases hf
    rfl

theorem Obtaining.calm {i : Nat} {domain : String} {ds : List Deed}
    {r : Except Failure PendingChallenge} {b b' : Bool}
    (h : Obtaining config client i domain b ds r b') : Calm ds r := by
  cases h with
  | failed _ hf => exact .error rfl (isLate_of_isOnline (isOnline_of_authorization hf))
  | offered => exact .ok rfl _
  | refused => exact .error rfl rfl
  | @unregistered t _ _ _ _ _ hr =>
    have hfirst : Calm [entering (.challenge i), .asked t] (.ok () : Except Failure Unit) := .ok rfl _
    exact hfirst.append hr.calm.failed
  | @registered t t' _ _ _ _ hr =>
    have hfirst : Calm [entering (.challenge i), .asked t] (.ok () : Except Failure Unit) := .ok rfl _
    refine hfirst.append (hr.calm.append ⟨rfl, fun f hf => ?_⟩)
    cases ha : t'.authorization domain with
    | error f' =>
      rw [ha] at hf
      cases hf
      exact isLate_of_isOnline (isOnline_of_authorization ha)
    | ok reply =>
      rw [ha] at hf
      cases reply with
      | challenge c => cases hf
      | unauthorized problem =>
        cases hf
        rfl

theorem isCalm_pause (policy : PollPolicy) (remaining : Nat) :
    (pause policy remaining).all isCalm = true := by
  rw [pause]
  split <;> rfl

theorem Polling.calm {policy : PollPolicy} {c : PendingChallenge} {remaining : Nat}
    {ds : List Deed} {r : Except Failure Unit} (h : Polling policy c remaining ds r) :
    Calm ds r := by
  induction h with
  | spent => exact .error rfl rfl
  | valid => exact .ok rfl _
  | failed _ hv => exact .error rfl (isLate_of_isOnline (isOnline_of_verdict hv))
  | @pending remaining _ _ _ _ _ _ ih =>
    have hpause : Calm (pause policy remaining) (.ok () : Except Failure Unit) :=
      .ok (isCalm_pause policy remaining) _
    exact .cons rfl (hpause.append ih)

theorem Deciding.calm {policy : PollPolicy} {c : PendingChallenge} {ds : List Deed}
    {r : Except Failure Unit} (h : Deciding client policy c ds r) : Calm ds r := by
  cases h with
  | unactivated _ hf =>
    refine .error rfl ?_
    rw [Turn.tolerated] at hf
    split at hf <;> cases hf
    rfl
  | polled _ _ hp => exact .cons rfl (.cons rfl hp.calm)

theorem Completing.calm {c : PendingChallenge} {ds : List Deed} {r : Except Failure Unit}
    (h : Completing config client c ds r) : Calm ds r := by
  cases h with
  | deaf => exact .error rfl rfl
  | @served start ds _ hs hd =>
    have hlisten : Calm start (.ok () : Except Failure Unit) := by
      rcases hs with rfl | rfl
      · exact .ok rfl _
      · exact .ok rfl _
    have hinner : (ds ++ [Deed.other (.withdrawn c.token)]).all isCalm = true := by
      rw [List.all_append, hd.calm.deeds]
      rfl
    exact hlisten.append (.cons rfl ⟨hinner, hd.calm.early⟩)

theorem Passing.calm {i : Nat} {domain : String} {ds : List Deed} {r : Except Failure Unit}
    {b b' : Bool} (h : Passing config client i domain b ds r b') : Calm ds r := by
  cases h with
  | unobtained ho => exact ho.calm.failed
  | obtained ho hc => exact ho.calm.append hc.calm

theorem Authorizing.calm {i : Nat} {domains : List String} {ds : List Deed}
    {r : Except Failure Unit} {b b' : Bool} (h : Authorizing config client i domains b ds r b') :
    Calm ds r := by
  induction h with
  | nil => exact .ok rfl _
  | stopped hp => exact hp.calm
  | cons hp _ ih => exact hp.calm.append ih

/-! ## The certificate is issued -/

/-- Deeds by which a certificate is issued for a key: every domain is authorized in the last pass
over them, and after that a request that was made with the key is granted. -/
inductive Warrant (config : Config) (client : Client) (certKey : String) (c : IssuedCertificate) :
    List Deed → Prop
  | intro {earlier pass : List Deed} {request : CertificateRequest} {t : Turn}
    (hlast : Phase.authStart ∉ phasesOf pass)
    (hgranted : Granted client config.domains (turnsOf pass))
    (hrequest : CertificateRequest.create certKey config.domains = .ok request)
    (hissues : Issues client request t c) :
    Warrant config client certKey c
      (earlier ++ entering .authStart :: (pass ++ [entering .certRequest, .asked t]))

variable {certKey : String} {c : IssuedCertificate}

theorem Warrant.prepend {ds : List Deed} (h : Warrant config client certKey c ds)
    (es : List Deed) : Warrant config client certKey c (es ++ ds) := by
  cases h with
  | intro hlast hgranted hrequest hissues =>
    rw [← List.append_assoc]
    exact .intro hlast hgranted hrequest hissues

theorem Requesting.early {ds : List Deed} {r : Except Failure CertificateReply} {b b' : Bool}
    (h : Requesting config client certKey b ds r b') :
    callsOf ds = [] ∧ ∀ f, r = .error f → isLate f = false := by
  have hcalls {ds es : List Deed} {r : Except Failure Unit} (h : Calm ds r)
      (hes : callsOf es = []) : callsOf (entering .authStart :: (ds ++ es)) = [] := by
    show callsOf (ds ++ es) = []
    rw [callsOf_append, callsOf_of_isCalm h.deeds, hes]
    rfl
  cases h with
  | unauthorized ha =>
    have hcalls := callsOf_of_isCalm ha.calm.deeds
    refine ⟨hcalls, fun f hf => ?_⟩
    cases hf
    exact ha.calm.early _ rfl
  | unrequested ha =>
    refine ⟨hcalls ha.calm rfl, fun f hf => ?_⟩
    cases hf
    rfl
  | requested ha =>
    exact ⟨hcalls ha.calm rfl, fun f hf => isLate_of_isOnline (isOnline_of_certificate hf)⟩

theorem Requesting.warrant {ds : List Deed} {b b' : Bool}
    (h : Requesting config client certKey b ds (.ok (.issued c)) b') :
    Warrant config client certKey c ds := by
  generalize hr : (Except.ok (.issued c) : Except Failure CertificateReply) = r at h
  cases h with
  | unauthorized => cases hr
  | unrequested => cases hr
  | requested ha hcreate ht =>
    exact @Warrant.intro config client certKey c [] _ _ _ (authStart_notMem_of_isCalm ha.calm.deeds)
      ha.granted hcreate (issues_of_certificate ht hr.symm)

theorem Issuing.early {ds : List Deed} {r : Except Failure IssuedCertificate} {g g' : Guards}
    (h : Issuing config client certKey g ds r g') :
    callsOf ds = [] ∧ ∀ f, r = .error f → isLate f = false := by
  cases h with
  | failed hr =>
    refine ⟨hr.early.1, fun f hf => ?_⟩
    cases hf
    exact hr.early.2 _ rfl
  | issued hr => exact ⟨hr.early.1, fun f hf => (by cases hf)⟩
  | @twice _ _ _ _ _ r hr hr' =>
    refine ⟨by rw [callsOf_append, hr.early.1, hr'.early.1]; rfl, fun f hf => ?_⟩
    cases r with
    | error f' =>
      cases hf
      exact hr'.early.2 _ rfl
    | ok reply =>
      cases reply with
      | issued c => cases hf
      | unauthorized problem =>
        cases hf
        rfl

theorem Issuing.warrant {ds : List Deed} {g g' : Guards}
    (h : Issuing config client certKey g ds (.ok c) g') : Warrant config client certKey c ds := by
  generalize hr : (Except.ok c : Except Failure IssuedCertificate) = r at h
  cases h with
  | failed => cases hr
  | issued hr' =>
    cases hr
    exact hr'.warrant
  | twice _ hagain =>
    rw [issuedAtLast_eq_ok hr.symm] at hagain
    exact hagain.warrant.prepend _

theorem Opening.early {isNew : Bool} {ds : List Deed} {r : Except Failure Unit} {b b' : Bool}
    (h : Opening config client isNew b ds r b') :
    callsOf ds = [] ∧ ∀ f, r = .error f → isLate f = false := by
  cases h with
  | nonceless => exact ⟨rfl, fun f hf => (by cases hf; rfl)⟩
  | known => exact ⟨rfl, fun f hf => (by cases hf)⟩
  | registering _ _ hr => exact ⟨callsOf_of_isCalm hr.calm.deeds, hr.calm.early⟩

/-! ## The files are written -/

/-- The calls that write the three files, one after the other. -/
def outputSteps (config : Config) (certKey : String) (c : IssuedCertificate) (issuerPem : String) :
    List FileStep :=
  keySteps config certKey ++ leafSteps config c ++ issuerSteps config issuerPem

def allDone (steps : List FileStep) : List (FileStep × Option SystemFault) :=
  steps.map fun step => (step, none)

theorem map_fst_allDone (steps : List FileStep) : (allDone steps).map Prod.fst = steps := by
  rw [allDone, List.map_map]
  exact List.map_id steps

theorem allDone_append (steps more : List FileStep) :
    allDone (steps ++ more) = allDone steps ++ allDone more :=
  List.map_append

/-- Calls are made in order until one fails. -/
theorem Changing.calls {steps : List FileStep} {ds : List Deed} {fault : Option SystemFault}
    (h : Changing steps ds fault) :
    (callsOf ds).map Prod.fst <+: steps ∧ (fault = none → callsOf ds = allDone steps) := by
  induction h with
  | nil => exact ⟨List.prefix_refl _, fun _ => rfl⟩
  | @stopped step rest fault => exact ⟨List.prefix_append [step] rest, fun h => (by cases h)⟩
  | @cons step rest ds fault _ ih =>
    refine ⟨(List.prefix_cons_inj step).2 ih.1, fun h => ?_⟩
    rw [callsOf_changed, ih.2 h]
    rfl

theorem Changing.phases {steps : List FileStep} {ds : List Deed} {fault : Option SystemFault}
    (h : Changing steps ds fault) : phasesOf ds = [] := by
  induction h with
  | nil => rfl
  | stopped => rfl
  | cons _ ih => exact ih

/-- How far the files of a certificate are written, for a result. -/
structure Written (config : Config) (certKey : String) (c : IssuedCertificate) (ds : List Deed)
    (r : Except Failure IssuedFiles) : Prop where
  order : ∃ issuerPem, (callsOf ds).map Prod.fst <+: outputSteps config certKey c issuerPem
  key : (∀ f, r = .error f → isLate f = true) →
    allDone (keySteps config certKey) <+: callsOf ds
  leaf : (∀ f, r = .error f → isLate f = true ∧ ∀ path e, f ≠ .certificateWrite path e) →
    allDone (keySteps config certKey ++ leafSteps config c) <+: callsOf ds
  whole : (∃ files, r = .ok files) →
    ∃ issuerPem, callsOf ds = allDone (outputSteps config certKey c issuerPem)

theorem Writing.calls_of_ok {ds : List Deed} (h : Writing config certKey c ds (.ok ())) :
    callsOf ds = allDone (keySteps config certKey ++ leafSteps config c) := by
  cases h with
  | written hk hc => rw [callsOf_append, hk.calls.2 rfl, hc.calls.2 rfl, allDone_append]

theorem Writing.phases {ds : List Deed} {r : Except Failure Unit}
    (h : Writing config certKey c ds r) : phasesOf ds = [] := by
  cases h with
  | keyless hk => exact hk.phases
  | leafless hk hc => rw [phasesOf_append, hk.phases, hc.phases]; rfl
  | written hk hc => rw [phasesOf_append, hk.phases, hc.phases]; rfl

theorem Writing.written_of_error {ds : List Deed} {f : Failure}
    (h : Writing config certKey c ds (.error f)) : Written config certKey c ds (.error f) := by
  cases h with
  | keyless hk =>
    refine ⟨⟨"", ?_⟩, fun h => ?_, fun h => ?_, fun ⟨_, h⟩ => (by cases h)⟩
    · rw [outputSteps, List.append_assoc]
      exact hk.calls.1.trans (List.prefix_append _ _)
    · cases h _ rfl
    · cases (h _ rfl).1
  | leafless hk hc =>
    refine ⟨⟨"", ?_⟩, fun _ => ?_, fun h => ?_, fun ⟨_, h⟩ => (by cases h)⟩
    · rw [callsOf_append, hk.calls.2 rfl, List.map_append, map_fst_allDone, outputSteps]
      refine ((List.prefix_append_right_inj _).2 hc.calls.1).trans (List.prefix_append _ _)
    · rw [callsOf_append, hk.calls.2 rfl]
      exact List.prefix_append _ _
    · exact absurd rfl ((h _ rfl).2 _ _)

theorem Fetching.calls {url : String} {ds : List Deed} {r : Except Failure Unit}
    (h : Fetching config url ds r) :
    (∃ issuerPem, (callsOf ds).map Prod.fst <+: issuerSteps config issuerPem)
      ∧ (r = .ok () → ∃ issuerPem, callsOf ds = allDone (issuerSteps config issuerPem)) := by
  cases h with
  | unfetched => exact ⟨⟨"", List.nil_prefix⟩, fun h => (by cases h)⟩
  | unwritten _ _ hi => exact ⟨⟨_, hi.calls.1⟩, fun h => (by cases h)⟩
  | written _ _ hi => exact ⟨⟨_, hi.calls.1⟩, fun _ => ⟨_, hi.calls.2 rfl⟩⟩

theorem Fetching.phases {url : String} {ds : List Deed} {r : Except Failure Unit}
    (h : Fetching config url ds r) : phasesOf ds = [] := by
  cases h with
  | unfetched => rfl
  | unwritten _ _ hi => exact hi.phases
  | written _ _ hi => exact hi.phases

/-- The key and the certificate have been written before the issuer certificate is fetched. -/
theorem Writing.written_of_ok {ds es : List Deed} {r : Except Failure IssuedFiles}
    (hw : Writing config certKey c ds (.ok ()))
    (horder : ∃ issuerPem, (callsOf es).map Prod.fst <+: issuerSteps config issuerPem)
    (hwhole : (∃ files, r = .ok files) →
      ∃ issuerPem, callsOf es = allDone (issuerSteps config issuerPem)) :
    Written config certKey c (ds ++ es) r := by
  have hcalls := hw.calls_of_ok
  constructor
  case order =>
    obtain ⟨issuerPem, hprefix⟩ := horder
    refine ⟨issuerPem, ?_⟩
    rw [callsOf_append, hcalls, List.map_append, map_fst_allDone]
    exact (List.prefix_append_right_inj _).2 hprefix
  case key =>
    intro _
    rw [callsOf_append, hcalls, allDone_append, List.append_assoc]
    exact List.prefix_append _ _
  case leaf =>
    intro _
    rw [callsOf_append, hcalls]
    exact List.prefix_append _ _
  case whole =>
    intro hok
    obtain ⟨issuerPem, hes⟩ := hwhole hok
    refine ⟨issuerPem, ?_⟩
    rw [callsOf_append, hcalls, hes, ← allDone_append]
    rfl

theorem Delivering.written {ds : List Deed} {r : Except Failure IssuedFiles}
    (h : Delivering config certKey c ds r) : Written config certKey c ds r := by
  cases h with
  | unwritten hw => exact hw.written_of_error
  | unfetched hw hf => exact hw.written_of_ok hf.calls.1 fun ⟨_, h⟩ => (by cases h)
  | @delivered ds es hw hf =>
    have hdone : callsOf (entering .intermediateFetch :: (es ++ [entering .done])) = callsOf es := by
      show callsOf (es ++ [entering .done]) = _
      rw [callsOf_append]
      exact List.append_nil _
    refine hw.written_of_ok ?_ fun _ => ?_
    · rw [hdone]
      exact hf.calls.1
    · rw [hdone]
      exact hf.calls.2 rfl

theorem Delivering.authStart_notMem {ds : List Deed} {r : Except Failure IssuedFiles}
    (h : Delivering config certKey c ds r) : Phase.authStart ∉ phasesOf ds := by
  cases h with
  | unwritten hw =>
    rw [hw.phases]
    exact List.not_mem_nil
  | unfetched hw hf =>
    rw [phasesOf_append, phasesOf_entered, hw.phases, hf.phases]
    decide
  | delivered hw hf =>
    rw [phasesOf_append, phasesOf_entered, phasesOf_append, hw.phases, hf.phases]
    decide

/-! ## The run -/

theorem Keeping.early {keys : KeySupply} {present : Bool} {ds : List Deed}
    {r : Except Failure (Account × Bool)} (h : Keeping config keys present ds r) :
    phasesOf ds = [] ∧ ∀ f, r = .error f → isLate f = false := by
  cases h with
  | loaded => exact ⟨rfl, fun f hf => (by cases hf)⟩
  | saved _ _ hs => exact ⟨hs.phases, fun f hf => (by cases hf)⟩
  | unsaved _ _ hs => exact ⟨hs.phases, fun f hf => (by cases hf; rfl)⟩
  | unusable _ _ hs => exact ⟨hs.phases, fun f hf => (by cases hf; rfl)⟩
  | _ => exact ⟨rfl, fun f hf => (by cases hf; rfl)⟩

/-- The call is one of those that save the new account key. -/
def SavesAccountKey (config : Config) (keys : KeySupply) (step : FileStep) : Prop :=
  ∃ pem, keys.account config.accountKeyBits = .ok pem
    ∧ step ∈ privateSteps config.accountKey pem

theorem Keeping.saves {keys : KeySupply} {present : Bool} {ds : List Deed}
    {r : Except Failure (Account × Bool)} (h : Keeping config keys present ds r) :
    ∀ call ∈ callsOf ds, SavesAccountKey config keys call.1 := by
  have hsaves {pem : String} {ds : List Deed} {fault : Option SystemFault}
      (hk : keys.account config.accountKeyBits = .ok pem)
      (hs : Changing (privateSteps config.accountKey pem) ds fault) :
      ∀ call ∈ callsOf ds, SavesAccountKey config keys call.1 :=
    fun call hcall => ⟨pem, hk, hs.calls.1.subset (List.mem_map_of_mem hcall)⟩
  cases h with
  | unsaved _ hk hs => exact hsaves hk hs
  | unusable _ hk hs => exact hsaves hk hs
  | saved _ hk hs => exact hsaves hk hs
  | _ => exact fun _ h => absurd h List.not_mem_nil

/-- Calls on the files are made before the first nonce is asked for only, to save the account
key. -/
structure Saving (config : Config) (keys : KeySupply) (start rest : List Deed) : Prop where
  early : Phase.nonce ∉ phasesOf start
  saves : ∀ call ∈ callsOf start, SavesAccountKey config keys call.1
  done : callsOf rest = []

/-- A member of two lists put together is found in the first or in the second. -/
theorem split_append {front late before after : List Deed} {deed : Deed}
    (h : front ++ late = before ++ deed :: after) :
    (∃ middle, front = before ++ deed :: middle)
      ∨ ∃ middle, before = front ++ middle ∧ late = middle ++ deed :: after := by
  rcases List.append_eq_append_iff.1 h with ⟨middle, hbefore, hlate⟩ | ⟨middle, hfront, hmiddle⟩
  · exact .inr ⟨middle, hbefore, hlate⟩
  · cases middle with
    | nil =>
      rw [List.append_nil] at hfront
      exact .inr ⟨[], by rw [hfront, List.append_nil], hmiddle.symm⟩
    | cons deed' middle =>
      rw [List.cons_append] at hmiddle
      cases hmiddle
      exact .inl ⟨middle, hfront⟩

theorem Saving.call {keys : KeySupply} {start rest before after : List Deed} {step : FileStep}
    {fault : Option SystemFault} (h : Saving config keys start rest)
    (hsplit : start ++ rest = before ++ .other (.changed step fault) :: after) :
    .nonce ∉ phasesOf before ∧ SavesAccountKey config keys step := by
  obtain ⟨hearly, hsaves, hdone⟩ := h
  -- The call is among the first deeds, for there is none among the others.
  rcases split_append hsplit with ⟨middle, rfl⟩ | ⟨middle, rfl, rfl⟩
  · rw [phasesOf_append] at hearly
    rw [callsOf_append, callsOf_changed] at hsaves
    exact ⟨fun hmem => hearly (List.mem_append_left _ hmem),
      hsaves _ (List.mem_append_right _ List.mem_cons_self)⟩
  · rw [callsOf_append, callsOf_changed] at hdone
    exact absurd hdone (by simp)

/-- Either no certificate is issued, and the run fails without a call on its files, or the
certificate is issued and then written. -/
theorem Running.issuance {keys : KeySupply} {present : Bool} {account : Account} {ds : List Deed}
    {r : Except Failure IssuedFiles} {g : Guards}
    (h : Running config keys present account ds r g) :
    ∃ start rest late, Saving config keys start rest ∧ ds = start ++ rest ++ late
      ∧ ((late = [] ∧ ∃ f, r = .error f ∧ isLate f = false)
        ∨ ∃ certKey c, keys.certificate config.certKeyBits = .ok certKey
          ∧ Warrant config ⟨config.endpoints, account⟩ certKey c (start ++ rest)
          ∧ Phase.authStart ∉ phasesOf late ∧ Written config certKey c late r) := by
  have hsaving {ds rest : List Deed} {r : Except Failure (Account × Bool)}
      (hk : Keeping config keys present ds r) (hrest : callsOf rest = []) :
      Saving config keys (entering .init :: ds) rest := by
    refine ⟨?_, hk.saves, hrest⟩
    rw [phasesOf_entered, hk.early.1]
    decide
  cases h with
  | unkept hk =>
    exact ⟨_, [], [], hsaving hk rfl, by simp, .inl ⟨rfl, _, rfl, hk.early.2 _ rfl⟩⟩
  | unkeyed hk => exact ⟨_, [], [], hsaving hk rfl, by simp, .inl ⟨rfl, _, rfl, rfl⟩⟩
  | @proceeding ds _ _ certKey _ _ hk hc hp =>
    cases hp with
    | unopened ho =>
      exact ⟨_, _, [], hsaving hk ho.early.1, by simp, .inl ⟨rfl, _, rfl, ho.early.2 _ rfl⟩⟩
    | @unissued _ _ os is _ ho hi =>
      have hcalls : callsOf (os ++ is) = [] := by
        rw [callsOf_append, ho.early.1, hi.early.1]
        rfl
      exact ⟨_, _, [], hsaving hk hcalls, by simp, .inl ⟨rfl, _, rfl, hi.early.2 _ rfl⟩⟩
    | @issued _ _ os is late c _ ho hi hd =>
      have hcalls : callsOf (os ++ is) = [] := by
        rw [callsOf_append, ho.early.1, hi.early.1]
        rfl
      refine ⟨_, _, late, hsaving hk hcalls, by simp, .inr ⟨certKey, c, hc, ?_,
        hd.authStart_notMem, hd.written⟩⟩
      exact ((hi.warrant.prepend os).prepend ds).prepend [entering .init]

/-- How the files that a run writes, the replies of the CA and the result go together. -/
structure Provenance (config : Config) (keys : KeySupply) (s : Session) (account : Account)
    (deeds : List Deed) : Prop where
  /-- A reply that counts was received in an exchange, for what was asked. -/
  replied : ∀ t ∈ turnsOf deeds, ∀ reply, t.result = .ok reply →
    ∃ x, t.sent = some x ∧ x.outcome = .ok reply
      ∧ Client.Requests ⟨config.endpoints, account⟩ t.ask x.request
  files : Filing s.files (callsOf deeds) (s.after (run config keys)).files
  /-- A call on the files saves the account key before anything is asked of the CA, or the
  certificate was issued before it, in the last pass over the domains. -/
  warranted : ∀ before step fault after, deeds = before ++ .other (.changed step fault) :: after →
    (.nonce ∉ phasesOf before ∧ SavesAccountKey config keys step)
      ∨ ∃ certKey c front late issuerPem, keys.certificate config.certKeyBits = .ok certKey
        ∧ before = front ++ late ∧ Warrant config ⟨config.endpoints, account⟩ certKey c front
        ∧ .authStart ∉ phasesOf (late ++ after)
        ∧ (callsOf late).map Prod.fst ++ [step] <+: outputSteps config certKey c issuerPem
  written : (∀ f, s.outcome (run config keys) = .error f → isLate f = true) →
    ∃ certKey c front late, keys.certificate config.certKeyBits = .ok certKey
      ∧ deeds = front ++ late ∧ Warrant config ⟨config.endpoints, account⟩ certKey c front
      ∧ .authStart ∉ phasesOf late ∧ Written config certKey c late (s.outcome (run config keys))

/-- In every run, what is written comes from a certificate that was issued for all domains, after
each of them was authorized. -/
theorem run_provenance (config : Config) (keys : KeySupply) (s : Session) :
    ∃ account deeds, Told config keys s account deeds ∧ Provenance config keys s account deeds := by
  obtain ⟨account, deeds, htold⟩ := run_follows config keys s
  obtain ⟨start, rest, late, hsaving, hsplit, hissuance⟩ := htold.running.issuance
  refine ⟨account, deeds, htold, ?_⟩
  constructor
  case files => exact htold.happened.files
  case replied =>
    intro t ht reply hr
    obtain ⟨before, after, hturns⟩ := List.append_of_mem ht
    have hconversation := htold.happened.conversation
    rw [hturns] at hconversation
    obtain ⟨_, _, _, hstep⟩ := hconversation.step_at
    exact hstep.replied_spec hr
  case warranted =>
    intro before step fault after hds
    rcases split_append (hsplit.symm.trans hds) with ⟨middle, hfront⟩ | ⟨middle, rfl, rfl⟩
    · exact .inl (hsaving.call hfront)
    · rcases hissuance with ⟨hnil, _⟩ | ⟨certKey, c, hkey, hwarrant, hlast, hwritten⟩
      · exact absurd hnil (by simp)
      · obtain ⟨issuerPem, horder⟩ := hwritten.order
        refine .inr ⟨certKey, c, _, middle, issuerPem, hkey, rfl, hwarrant, ?_, ?_⟩
        · rw [phasesOf_append] at hlast ⊢
          exact hlast
        · refine List.IsPrefix.trans ⟨(callsOf after).map Prod.fst, ?_⟩ horder
          rw [callsOf_append, callsOf_changed, List.map_append, List.map_cons, List.append_assoc]
          rfl
  case written =>
    intro hlate
    rcases hissuance with ⟨_, f, hf, hearly⟩ | ⟨certKey, c, hkey, hwarrant, hlast, hwritten⟩
    · rw [hlate f hf] at hearly
      cases hearly
    · exact ⟨certKey, c, _, late, hkey, hsplit, hwarrant, hlast, hwritten⟩

end Acme.Run
