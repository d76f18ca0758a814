import Acme.Proofs.Run.Course

/-!
# Failures in the conversation

What a turn that fails means for the run: some failures end it at once, and what may fail before the
certificate is issued is of a certain kind (`Converses`, proved for each part of a run).
-/

namespace Acme

/-! ## Turns that fail -/

/-- What is asked for may be refused without an end of the run. -/
def Ask.isOptional : Ask → Bool
  | .signed _ (.newRegistration _ _) => true
  | .signed _ (.challengeResponse _) => true
  | _ => false

namespace Turn

/-- The failure that a turn ends the run with. -/
def fatal? (t : Turn) : Option Failure :=
  match t.result, t.ask with
  | .error e, .signed _ (.newAuthorization domain) =>
    some (e.toFailure (.noHttp01Challenge domain))
  | .error e, .signed _ (.newCertificate _) => some (e.toFailure .certificateRequest)
  | .error (.noNonce reason), .signed _ _ => some (.noNonce reason)
  | _, _ => none

/-- The turn fails, and the run goes on. -/
def isForgiven (t : Turn) : Bool :=
  match t.result with
  | .ok _ => false
  | .error _ => t.ask.isSigned && t.fatal?.isNone

variable {t : Turn} {client : Client}

theorem fatal?_of_not_isSigned (h : t.ask.isSigned = false) : t.fatal? = none := by
  rw [fatal?]
  cases hask : t.ask with
  | signed url payload =>
    rw [hask] at h
    cases h
  | _ => cases t.result <;> rfl

theorem fatal?_of_authorization {domain : String} {f : Failure}
    (ht : t.ask = client.authorizationAsk domain) (hf : t.fatal? = some f) :
    t.authorization domain = .error f := by
  rw [fatal?, ht, Client.authorizationAsk] at hf
  rw [authorization]
  cases hr : t.result with
  | ok reply =>
    rw [hr] at hf
    cases hf
  | error e =>
    rw [hr] at hf
    cases hf
    rfl

theorem fatal?_of_certificate {request : CertificateRequest} {page : String} {f : Failure}
    (ht : t.ask = client.certificateAsk request) (hf : t.fatal? = some f) :
    t.certificate page = .error f := by
  rw [fatal?, ht, Client.certificateAsk] at hf
  rw [certificate]
  cases hr : t.result with
  | ok reply =>
    rw [hr] at hf
    cases hf
  | error e =>
    rw [hr] at hf
    cases hf
    rfl

theorem fatal?_eq_some_iff {f : Failure} (h : t.ask.isOptional = true) :
    t.fatal? = some f ↔ t.tolerated = .error f := by
  rw [fatal?, tolerated]
  cases hask : t.ask with
  | signed url payload =>
    rw [hask] at h
    cases hr : t.result with
    | ok reply => exact ⟨fun hf => (by cases hf), fun hok => (by cases hok)⟩
    | error e =>
      cases payload <;> cases h <;> cases e <;>
        first
        | exact ⟨fun hf => (by cases hf; rfl), fun hf => (by cases hf; rfl)⟩
        | exact ⟨fun hf => (by cases hf), fun hok => (by cases hok)⟩
  | _ =>
    rw [hask] at h
    cases h

theorem fatal?_of_tolerated (h : t.ask.isOptional = true) (hok : t.tolerated = .ok ()) :
    t.fatal? = none := by
  cases hf : t.fatal? with
  | none => rfl
  | some f =>
    rw [(fatal?_eq_some_iff h).1 hf] at hok
    cases hok

/-- A turn that ends the run is not forgiven. -/
theorem isForgiven_of_fatal? {f : Failure} (h : t.fatal? = some f) : t.isForgiven = false := by
  rw [isForgiven, h]
  split
  · rfl
  · exact Bool.and_false _

theorem isForgiven_of_not_isSigned (h : t.ask.isSigned = false) : t.isForgiven = false := by
  rw [isForgiven, h]
  split <;> rfl

theorem isForgiven_of_authorization {domain : String} (ht : t.ask = client.authorizationAsk domain) :
    t.isForgiven = false := by
  rw [isForgiven]
  cases hr : t.result with
  | ok reply => rfl
  | error e => rw [fatal?, hr, ht]; rfl

theorem isForgiven_of_certificate {request : CertificateRequest}
    (ht : t.ask = client.certificateAsk request) : t.isForgiven = false := by
  rw [isForgiven]
  cases hr : t.result with
  | ok reply => rfl
  | error e => rw [fatal?, hr, ht]; rfl

end Turn

namespace Run

/-! ## Kinds of failures -/

/-- Failures that come of the conversation, and not of keys and files. -/
def isOnline : Failure → Bool
  | .noNonce _ => true
  | .responderBind _ _ => true
  | .noHttp01Challenge _ _ => true
  | .challengeStatus _ _ => true
  | .challengeInvalid _ _ => true
  | .challengeTimeout _ _ => true
  | .certificateRequest _ => true
  | .noIssuerLink => true
  | .missingEmail => true
  | _ => false

variable {t : Turn} {f : Failure}

theorem isOnline_toFailure {step : String → Failure} (h : ∀ reason, isOnline (step reason) = true)
    (e : RequestError) : isOnline (e.toFailure step) = true := by
  cases e with
  | noNonce => rfl
  | transport => exact h _
  | signing => exact h _

theorem isOnline_of_authorization {domain : String} (h : t.authorization domain = .error f) :
    isOnline f = true := by
  rw [Turn.authorization] at h
  split at h
  · cases h
    exact isOnline_toFailure (fun _ => rfl) _
  · rename_i reply _
    cases ho : AuthorizationReply.ofReply domain reply with
    | ok said =>
      rw [ho] at h
      cases h
    | error reason =>
      rw [ho] at h
      cases h
      rfl

theorem isOnline_of_verdict {domain : String} (h : t.verdict domain = .failed f) :
    isOnline f = true := by
  rw [Turn.verdict] at h
  split at h
  · cases h
    exact isOnline_toFailure (fun _ => rfl) _
  · rw [PollVerdict.ofReply] at h
    split at h
    · cases h
      rfl
    · split at h
      · cases h
        rfl
      · split at h <;> cases h <;> rfl

theorem isOnline_of_certificate {page : String} (h : t.certificate page = .error f) :
    isOnline f = true := by
  rw [Turn.certificate] at h
  split at h
  · cases h
    exact isOnline_toFailure (fun _ => rfl) _
  · rw [CertificateReply.ofReply] at h
    split at h
    · split at h <;> cases h
      rfl
    · split at h
      · cases h
        rfl
      · split at h
        · cases h
          rfl
        · split at h <;> cases h
          rfl

/-! ## What turns mean for the result -/

/-- The result heeds what turns come to: a turn that is fatal is the last one and gives the result,
and one that is forgiven is followed by something else. The first phase is not entered again. -/
inductive Heeds {α : Type} (r : Except Failure α) : List Deed → Prop
  | nil : Heeds r []
  | other {event : Event} {ds : List Deed} (he : event ≠ .entered .init) (h : Heeds r ds) :
    Heeds r (.other event :: ds)
  | asked {t : Turn} {ds : List Deed}
    (hf : ∀ f, t.fatal? = some f → r = .error f ∧ turnsOf ds = [])
    (hg : t.isForgiven = true → ds ≠ []) (h : Heeds r ds) : Heeds r (.asked t :: ds)

namespace Heeds

variable {α β : Type} {ds es : List Deed} {r : Except Failure α} {x : β}

theorem append (h : Heeds (.ok x : Except Failure β) ds) (h' : Heeds r es) : Heeds r (ds ++ es) := by
  induction h with
  | nil => exact h'
  | other he _ ih => exact .other he ih
  | asked hf hg _ ih =>
    refine .asked (fun f hfatal => ?_) (fun hforgiven => ?_) ih
    · cases (hf f hfatal).1
    · exact List.append_ne_nil_of_left_ne_nil (hg hforgiven) _

theorem result {r' : Except Failure β} (h : Heeds r ds) (hr : ∀ f, r = .error f → r' = .error f) :
    Heeds r' ds := by
  induction h with
  | nil => exact .nil
  | other he _ ih => exact .other he ih
  | asked hf hg _ ih => exact .asked (fun f hfatal => ⟨hr f (hf f hfatal).1, (hf f hfatal).2⟩) hg ih

/-- Nothing comes of the turn. -/
theorem passed (hf : t.fatal? = none) (hg : t.isForgiven = false) (h : Heeds r ds) :
    Heeds r (.asked t :: ds) := by
  refine .asked (fun f hfatal => ?_) (fun hforgiven => ?_) h
  · rw [hf] at hfatal
    cases hfatal
  · rw [hg] at hforgiven
    cases hforgiven

theorem unsigned (ht : t.ask.isSigned = false) (h : Heeds r ds) : Heeds r (.asked t :: ds) :=
  h.passed (Turn.fatal?_of_not_isSigned ht) (Turn.isForgiven_of_not_isSigned ht)

theorem last (hf : ∀ f, t.fatal? = some f → r = .error f) (hg : t.isForgiven = false) :
    Heeds r [.asked t] := by
  refine .asked (fun f hfatal => ⟨hf f hfatal, rfl⟩) (fun hforgiven => ?_) .nil
  rw [hg] at hforgiven
  cases hforgiven

theorem init_notMem (h : Heeds r ds) : Phase.init ∉ phasesOf ds := by
  induction h with
  | nil => exact List.not_mem_nil
  | @other event _ he _ ih =>
    cases event with
    | entered phase =>
      rw [phasesOf_entered, List.mem_cons, not_or]
      exact ⟨fun hphase => he (congrArg Event.entered hphase.symm), ih⟩
    | _ => exact ih
  | asked _ _ _ ih => exact ih

theorem at_asked {before after : List Deed} (h : Heeds r (before ++ .asked t :: after)) :
    (∀ f, t.fatal? = some f → r = .error f ∧ turnsOf after = [])
      ∧ (t.isForgiven = true → after ≠ []) := by
  induction before with
  | nil =>
    cases h with
    | asked hf hg _ => exact ⟨hf, hg⟩
  | cons deed before ih =>
    cases h with
    | other _ h => exact ih h
    | asked _ _ h => exact ih h

/-- What comes after a failure asks for nothing. -/
theorem append_silent (h : Heeds r ds) (h' : Heeds r es) (hs : turnsOf es = []) :
    Heeds r (ds ++ es) := by
  induction h with
  | nil => exact h'
  | other he _ ih => exact .other he ih
  | asked hf hg _ ih =>
    refine .asked (fun f hfatal => ⟨(hf f hfatal).1, ?_⟩) (fun hforgiven => ?_) ih
    · show turnsOf (_ ++ es) = []
      rw [turnsOf_append, (hf f hfatal).2, hs]
      rfl
    · exact List.append_ne_nil_of_left_ne_nil (hg hforgiven) _

end Heeds

/-- The result heeds what the turns come to, and a failure comes of the conversation. -/
structure Converses {α : Type} (ds : List Deed) (r : Except Failure α) : Prop where
  heeds : Heeds r ds
  online : ∀ f, r = .error f → isOnline f = true

namespace Converses

variable {α β : Type} {ds es : List Deed} {r : Except Failure α} {x : β}

theorem ok {x : α} (h : Heeds (.ok x : Except Failure α) ds) : Converses ds (.ok x) :=
  ⟨h, nofun⟩

theorem error (h : Heeds (.error f : Except Failure α) ds) (hf : isOnline f = true) :
    Converses ds (.error f : Except Failure α) := by
  refine ⟨h, fun f' hf' => ?_⟩
  cases hf'
  exact hf

theorem append (h : Converses ds (.ok x)) (h' : Converses es r) : Converses (ds ++ es) r :=
  ⟨h.heeds.append h'.heeds, h'.online⟩

theorem failed (h : Converses ds (.error f : Except Failure β)) :
    Converses ds (.error f : Except Failure α) := by
  refine .error (h.heeds.result fun f' hf' => ?_) (h.online f rfl)
  cases hf'
  rfl

theorem other {event : Event} (he : event ≠ .entered .init) (h : Converses ds r) :
    Converses (.other event :: ds) r :=
  ⟨.other he h.heeds, h.online⟩

/-- A request whose refusal is forgiven is refused for want of a nonce. -/
theorem optional_last (ht : t.ask.isOptional = true) (hf : t.tolerated = .error f) :
    Converses [.asked t] (.error f : Except Failure α) := by
  have hfatal := (Turn.fatal?_eq_some_iff ht).2 hf
  have honline : isOnline f = true := by
    rw [Turn.tolerated] at hf
    split at hf <;> cases hf
    rfl
  refine .error (.last (fun f' hf' => ?_) (Turn.isForgiven_of_fatal? hfatal)) honline
  rw [hfatal] at hf'
  cases hf'
  rfl

theorem optional_next (ht : t.ask.isOptional = true) (hok : t.tolerated = .ok ()) (hne : es ≠ [])
    (h : Converses es r) : Converses (.asked t :: es) r := by
  refine ⟨.asked (fun f hf => ?_) (fun _ => hne) h.heeds, h.online⟩
  rw [Turn.fatal?_of_tolerated ht hok] at hf
  cases hf

end Converses

/-! ## The parts of a run -/

variable {config : Config} {client : Client} {ds es : List Deed}

theorem Registering.converses_of_error (h : Registering config client ds (.error f)) :
    Converses ds (.error f : Except Failure Unit) := by
  generalize hr : (Except.error f : Except Failure Unit) = r at h
  cases h with
  | homeless =>
    cases hr
    exact .error (.other nofun .nil) rfl
  | asked _ ht =>
    rw [← hr]
    exact .other nofun (.optional_last (by rw [ht]; rfl) hr.symm)

/-- After a registration that was tried, the run goes on with a phase. -/
theorem Registering.converses_of_ok {α : Type} {r : Except Failure α} {phase : Phase}
    (h : Registering config client ds (.ok ())) (he : Converses (entering phase :: es) r) :
    Converses (ds ++ entering phase :: es) r := by
  generalize hr : (Except.ok () : Except Failure Unit) = r' at h
  cases h with
  | homeless => cases hr
  | asked _ ht =>
    exact .other nofun (.optional_next (by rw [ht]; rfl) hr.symm (List.cons_ne_nil _ _) he)

theorem Obtaining.converses {i : Nat} {domain : String} {r : Except Failure PendingChallenge}
    {b b' : Bool} (h : Obtaining config client i domain b ds r b') : Converses ds r := by
  -- The request for an authorization that is answered is of no consequence by itself.
  have hanswered {t : Turn} {reply : AuthorizationReply} {es : List Deed}
      {r : Except Failure PendingChallenge} (ht : t.ask = client.authorizationAsk domain)
      (ha : t.authorization domain = .ok reply) (h : Converses es r) :
      Converses ([entering (.challenge i), .asked t] ++ es) r := by
    refine ⟨.other nofun (h.heeds.passed ?_ (Turn.isForgiven_of_authorization ht)), h.online⟩
    cases hf : t.fatal? with
    | none => rfl
    | some f =>
      rw [Turn.fatal?_of_authorization ht hf] at ha
      cases ha
  cases h with
  | @failed _ t f ht hf =>
    refine .error (.other nofun (.last (fun f' hf' => ?_) (Turn.isForgiven_of_authorization ht)))
      (isOnline_of_authorization hf)
    rw [Turn.fatal?_of_authorization ht hf'] at hf
    cases hf
    rfl
  | offered ht hc => exact hanswered ht hc (.ok .nil)
  | refused ht hp => exact hanswered ht hp (.error .nil rfl)
  | unregistered ht hp hr => exact hanswered ht hp hr.converses_of_error.failed
  | @registered t t' problem ds ht hp hr ht' =>
    refine hanswered ht hp (hr.converses_of_ok ⟨.other nofun (.last (fun f hf => ?_) ?_), fun f hf => ?_⟩)
    · rw [Turn.fatal?_of_authorization ht' hf]
      rfl
    · exact Turn.isForgiven_of_authorization ht'
    · cases ha : t'.authorization domain with
      | error f' =>
        rw [ha] at hf
        cases hf
        exact isOnline_of_authorization ha
      | ok reply =>
        rw [ha] at hf
        cases reply with
        | challenge c => cases hf
        | unauthorized problem =>
          cases hf
          rfl

theorem Polling.converses {policy : PollPolicy} {c : PendingChallenge} {remaining : Nat}
    {r : Except Failure Unit} (h : Polling policy c remaining ds r) : Converses ds r := by
  have hplain {t : Turn} (ht : t.ask = .plain c.uri) : t.ask.isSigned = false := by rw [ht]; rfl
  induction h with
  | spent => exact .error .nil rfl
  | valid ht _ => exact .ok (.unsigned (hplain ht) .nil)
  | failed ht hv => exact .error (.unsigned (hplain ht) .nil) (isOnline_of_verdict hv)
  | pending ht _ _ ih =>
    refine ⟨.unsigned (hplain ht) ?_, ih.online⟩
    rw [pause]
    split
    · exact .other (fun h => (by cases h)) ih.heeds
    · exact ih.heeds

theorem Deciding.converses {policy : PollPolicy} {c : PendingChallenge} {r : Except Failure Unit}
    (h : Deciding client policy c ds r) : Converses ds r := by
  cases h with
  | unactivated ht hf => exact .optional_last (by rw [ht]; rfl) hf
  | polled ht hok hp =>
    exact .optional_next (by rw [ht]; rfl) hok (List.cons_ne_nil _ _) (.other nofun hp.converses)

theorem Completing.converses {c : PendingChallenge} {r : Except Failure Unit}
    (h : Completing config client c ds r) : Converses ds r := by
  cases h with
  | deaf => exact .error .nil rfl
  | @served start ds _ hs hd =>
    have hinner : Converses (.other (.offered c.token (client.account.keyAuthorization c.token))
        :: (ds ++ [.other (.withdrawn c.token)])) r :=
      ⟨.other nofun (hd.converses.heeds.append_silent (.other nofun .nil) rfl), hd.converses.online⟩
    rcases hs with rfl | rfl
    · exact hinner
    · exact hinner.other nofun

theorem Passing.converses {i : Nat} {domain : String} {r : Except Failure Unit} {b b' : Bool}
    (h : Passing config client i domain b ds r b') : Converses ds r := by
  cases h with
  | unobtained ho => exact ho.converses.failed
  | obtained ho hc => exact ho.converses.append hc.converses

theorem Authorizing.converses {i : Nat} {domains : List String} {r : Except Failure Unit}
    {b b' : Bool} (h : Authorizing config client i domains b ds r b') : Converses ds r := by
  induction h with
  | nil => exact .ok .nil
  | stopped hp => exact hp.converses
  | cons hp _ ih => exact hp.converses.append ih

theorem Requesting.converses {certKey : String} {r : Except Failure CertificateReply} {b b' : Bool}
    (h : Requesting config client certKey b ds r b') : Converses ds r := by
  cases h with
  | unauthorized ha => exact .other nofun ha.converses.failed
  | unrequested ha => exact .other nofun (ha.converses.append (.error (.other nofun .nil) rfl))
  | requested ha _ ht =>
    refine .other nofun (ha.converses.append ⟨.other nofun (.last (fun f hf => ?_) ?_), fun f hf => ?_⟩)
    · exact Turn.fatal?_of_certificate ht hf
    · exact Turn.isForgiven_of_certificate ht
    · exact isOnline_of_certificate hf

theorem Issuing.converses {certKey : String} {r : Except Failure IssuedCertificate} {g g' : Guards}
    (h : Issuing config client certKey g ds r g') : Converses ds r := by
  cases h with
  | failed hr => exact hr.converses.failed
  | issued hr => exact .ok (hr.converses.heeds.result nofun)
  | @twice _ _ _ _ _ r hr hr' =>
    refine hr.converses.append ⟨hr'.converses.heeds.result fun f hf => ?_, fun f hf => ?_⟩
    · rw [hf]
      rfl
    · cases r with
      | error f' =>
        cases hf
        exact hr'.converses.online _ rfl
      | ok reply =>
        cases reply with
        | issued c => cases hf
        | unauthorized problem =>
          cases hf
          rfl

theorem Requesting.starts {certKey : String} {r : Except Failure CertificateReply} {b b' : Bool}
    (h : Requesting config client certKey b ds r b') : ∃ es, ds = entering .authStart :: es := by
  cases h <;> exact ⟨_, rfl⟩

theorem Issuing.starts {certKey : String} {r : Except Failure IssuedCertificate} {g g' : Guards}
    (h : Issuing config client certKey g ds r g') : ∃ es, ds = entering .authStart :: es := by
  cases h with
  | failed hr => exact hr.starts
  | issued hr => exact hr.starts
  | twice hr _ =>
    obtain ⟨es, rfl⟩ := hr.starts
    exact ⟨_, rfl⟩

theorem Opening.converses_of_error {isNew : Bool} {b b' : Bool}
    (h : Opening config client isNew b ds (.error f) b') :
    Converses ds (.error f : Except Failure Unit) := by
  generalize hr : (Except.error f : Except Failure Unit) = r at h
  cases h with
  | nonceless ht =>
    rw [← hr]
    cases hr
    exact .error (.other nofun (.unsigned (by rw [ht]; rfl) .nil)) rfl
  | known => cases hr
  | registering ht _ hreg =>
    subst hr
    refine ⟨.other nofun (.unsigned (by rw [ht]; rfl) hreg.converses_of_error.heeds), ?_⟩
    exact hreg.converses_of_error.online

/-- After the first nonce, the run goes on with a phase. -/
theorem Opening.converses_of_ok {isNew : Bool} {b b' : Bool} {α : Type} {r : Except Failure α}
    {phase : Phase} (h : Opening config client isNew b ds (.ok ()) b')
    (he : Converses (entering phase :: es) r) : Converses (ds ++ entering phase :: es) r := by
  generalize hr : (Except.ok () : Except Failure Unit) = r' at h
  cases h with
  | nonceless => cases hr
  | known ht => exact ⟨.other nofun (.unsigned (by rw [ht]; rfl) he.heeds), he.online⟩
  | registering ht _ hreg =>
    subst hr
    have hnext := hreg.converses_of_ok he
    exact ⟨.other nofun (.unsigned (by rw [ht]; rfl) hnext.heeds), hnext.online⟩

/-! ## Files -/

theorem Changing.heeds {α : Type} {steps : List FileStep} {fault : Option SystemFault}
    (h : Changing steps ds fault) (r : Except Failure α) : Heeds r ds := by
  induction h with
  | nil => exact .nil
  | stopped => exact .other nofun .nil
  | cons _ ih => exact .other nofun ih

theorem Writing.heeds {α : Type} {certKey : String} {c : IssuedCertificate}
    {r' : Except Failure Unit} (h : Writing config certKey c ds r') (r : Except Failure α) :
    Heeds r ds := by
  cases h with
  | keyless hk => exact hk.heeds r
  | leafless hk hc => exact ((hk.heeds (.ok ())).append (hc.heeds r))
  | written hk hc => exact ((hk.heeds (.ok ())).append (hc.heeds r))

theorem Fetching.heeds {α : Type} {url : String} {r' : Except Failure Unit}
    (h : Fetching config url ds r') (r : Except Failure α) : Heeds r ds := by
  cases h with
  | unfetched ht => exact .unsigned (by rw [ht]; rfl) .nil
  | unwritten ht _ hi => exact .unsigned (by rw [ht]; rfl) (hi.heeds r)
  | written ht _ hi => exact .unsigned (by rw [ht]; rfl) (hi.heeds r)

theorem Delivering.heeds {certKey : String} {c : IssuedCertificate}
    {r : Except Failure IssuedFiles} (h : Delivering config certKey c ds r) : Heeds r ds := by
  cases h with
  | unwritten hw => exact hw.heeds _
  | unfetched hw hf => exact (hw.heeds (.ok ())).append (.other nofun (hf.heeds _))
  | delivered hw hf =>
    refine (hw.heeds (.ok ())).append (.other nofun ?_)
    exact (hf.heeds (.ok ())).append (.other nofun .nil)

/-! ## The run -/

theorem Proceeding.heeds {isNew : Bool} {certKey : String} {r : Except Failure IssuedFiles}
    {g g' : Guards} (h : Proceeding config client isNew certKey g ds r g') : Heeds r ds := by
  cases h with
  | unopened ho => exact ho.converses_of_error.failed.heeds
  | unissued ho hi =>
    obtain ⟨es, rfl⟩ := hi.starts
    exact (ho.converses_of_ok hi.converses.failed).heeds
  | issued ho hi hd =>
    obtain ⟨es, rfl⟩ := hi.starts
    exact (ho.converses_of_ok hi.converses).heeds.append hd.heeds

theorem Keeping.heeds {α : Type} {keys : KeySupply} {present : Bool}
    {r' : Except Failure (Account × Bool)} (h : Keeping config keys present ds r')
    (r : Except Failure α) : Heeds r ds := by
  cases h with
  | unsaved _ _ hs => exact hs.heeds r
  | unusable _ _ hs => exact hs.heeds r
  | saved _ _ hs => exact hs.heeds r
  | _ => exact .nil

theorem Running.heeds {keys : KeySupply} {present : Bool} {account : Account}
    {r : Except Failure IssuedFiles} {g : Guards} (h : Running config keys present account ds r g) :
    ∃ es, ds = entering .init :: es ∧ Heeds r es := by
  cases h with
  | unkept hk => exact ⟨_, rfl, hk.heeds _⟩
  | unkeyed hk => exact ⟨_, rfl, hk.heeds _⟩
  | proceeding hk _ hp => exact ⟨_, rfl, (hk.heeds (.ok ())).append hp.heeds⟩

end Run

end Acme
