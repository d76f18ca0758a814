import Acme.Proofs.Run.Effects

/-!
# What a failure tells of the phase

A failure comes of a step that is taken in certain phases (`Failure.fits`), and each part of a run
fails only in ways that fit the last phase that it enters.
-/

namespace Acme

/-- The domain that a failure names, if it names one. -/
def Failure.domain? : Failure → Option String
  | .noHttp01Challenge domain _ => some domain
  | .challengeStatus domain _ => some domain
  | .challengeInvalid domain _ => some domain
  | .challengeTimeout domain _ => some domain
  | _ => none

/-- The failure is one of a step that is taken in this phase. -/
def Failure.fits : Failure → Phase → Bool
  | .accountKeyWrite _ _, .init => true
  | .accountKeyInvalid _ _, .init => true
  | .certificateKey _, .init => true
  | .missingEmail, .init => true
  | .missingEmail, .register => true
  | .noNonce _, .nonce => true
  | .noNonce _, .register => true
  | .noNonce _, .challenge _ => true
  | .noNonce _, .certRequest => true
  | .responderBind _ _, .challenge _ => true
  | .noHttp01Challenge _ _, .challenge _ => true
  | .challengeStatus _ _, .challenge _ => true
  | .challengeInvalid _ _, .challenge _ => true
  | .challengeTimeout _ _, .challenge _ => true
  | .certificateRequest _, .certRequest => true
  | .noIssuerLink, .certRequest => true
  | .certificateKeyWrite _ _, .certRequest => true
  | .certificateWrite _ _, .certRequest => true
  | .intermediateFetch _ _, .intermediateFetch => true
  | .intermediateWrite _ _, .intermediateFetch => true
  | _, _ => false

theorem Failure.fits_done (f : Failure) : f.fits .done = false := by
  cases f <;> rfl

namespace Run

/-! ## Failures of the parts -/

section
variable {config : Config} {client : Client} {ds : List Deed} {f : Failure}

/-- The failure is one of a step in which a domain is authorized, and names no other domain. -/
def Concerns (domain : String) (f : Failure) : Prop :=
  (∀ i, f.fits (.challenge i) = true) ∧ ∀ named, f.domain? = some named → named = domain

theorem concerns_noNonce (domain reason : String) : Concerns domain (.noNonce reason) :=
  ⟨fun _ => rfl, nofun⟩

theorem concerns_of_named {domain : String} (hf : ∀ i, f.fits (.challenge i) = true)
    (hd : f.domain? = some domain) : Concerns domain f := by
  refine ⟨hf, fun named h => ?_⟩
  rw [hd] at h
  exact (Option.some.inj h).symm

theorem concerns_toFailure {domain : String} {step : String → Failure}
    (h : ∀ reason, Concerns domain (step reason)) (e : RequestError) :
    Concerns domain (e.toFailure step) := by
  cases e with
  | noNonce reason => exact concerns_noNonce domain reason
  | transport => exact h _
  | signing => exact h _

theorem concerns_noHttp01Challenge (domain reason : String) :
    Concerns domain (.noHttp01Challenge domain reason) :=
  concerns_of_named (fun _ => rfl) rfl

theorem concerns_challengeStatus (domain reason : String) :
    Concerns domain (.challengeStatus domain reason) :=
  concerns_of_named (fun _ => rfl) rfl

theorem concerns_of_authorization {t : Turn} {domain : String}
    (h : t.authorization domain = .error f) : Concerns domain f := by
  rw [Turn.authorization] at h
  split at h
  · cases h
    exact concerns_toFailure (concerns_noHttp01Challenge domain) _
  · rename_i reply _
    cases ho : AuthorizationReply.ofReply domain reply with
    | ok said =>
      rw [ho] at h
      cases h
    | error reason =>
      rw [ho] at h
      cases h
      exact concerns_noHttp01Challenge domain reason

theorem concerns_of_verdict {t : Turn} {domain : String} (h : t.verdict domain = .failed f) :
    Concerns domain f := by
  rw [Turn.verdict] at h
  split at h
  · cases h
    exact concerns_toFailure (concerns_challengeStatus domain) _
  · rw [PollVerdict.ofReply] at h
    split at h
    · cases h
      exact concerns_challengeStatus domain _
    · split at h
      · cases h
        exact concerns_challengeStatus domain _
      · split at h
        · cases h
        · cases h
        · cases h
          exact concerns_of_named (fun _ => rfl) rfl
        · cases h
          exact concerns_challengeStatus domain _

theorem eq_noNonce_of_tolerated {t : Turn} (h : t.tolerated = .error f) :
    ∃ reason, f = .noNonce reason := by
  rw [Turn.tolerated] at h
  split at h
  · cases h
    exact ⟨_, rfl⟩
  · cases h

theorem fits_of_certificate {t : Turn} {page : String} (h : t.certificate page = .error f) :
    f.fits .certRequest = true := by
  rw [Turn.certificate] at h
  split at h
  · rename_i e _
    cases h
    cases e <;> rfl
  · rw [CertificateReply.ofReply] at h
    split at h
    · split at h <;> cases h
      rfl
    · split at h
      · cases h
        rfl
      · split at h
        · cases h
          rfl
        · split at h <;> cases h
          rfl

/-- The challenge that is offered for a domain is one for this domain. -/
theorem domain_of_authorization {t : Turn} {domain : String} {c : PendingChallenge}
    (h : t.authorization domain = .ok (.challenge c)) : c.domain = domain := by
  rw [Turn.authorization] at h
  split at h
  · cases h
  · rename_i reply _
    rw [AuthorizationReply.ofReply] at h
    split at h
    · split at h <;> cases h
    · split at h
      · cases h
      · split at h
        · cases h
        · split at h
          · split at h <;> cases h
            rfl
          · cases h

theorem Registering.phases {r : Except Failure Unit} (h : Registering config client ds r) :
    phasesOf ds = [.register] := by
  cases h <;> rfl

theorem Registering.fits (h : Registering config client ds (.error f)) :
    f.fits .register = true := by
  generalize hr : (Except.error f : Except Failure Unit) = r at h
  cases h with
  | homeless =>
    cases hr
    rfl
  | asked =>
    obtain ⟨reason, rfl⟩ := eq_noNonce_of_tolerated hr.symm
    rfl

/-- The phases end with that of the registration, or with that of the domain. -/
theorem Obtaining.halts {i : Nat} {domain : String} {b b' : Bool}
    (h : Obtaining config client i domain b ds (.error f) b') :
    (phasesOf ds).getLast? = some .register ∧ f.fits .register = true
      ∨ (phasesOf ds).getLast? = some (.challenge i) ∧ Concerns domain f := by
  generalize hr : (Except.error f : Except Failure PendingChallenge) = r at h
  cases h with
  | failed _ hf =>
    cases hr
    exact .inr ⟨rfl, concerns_of_authorization hf⟩
  | offered => cases hr
  | refused =>
    cases hr
    exact .inr ⟨rfl, concerns_noHttp01Challenge domain _⟩
  | unregistered _ _ hreg =>
    cases hr
    refine .inl ⟨?_, hreg.fits⟩
    rw [phasesOf_append, hreg.phases]
    rfl
  | @registered t t' problem es _ _ hreg _ =>
    refine .inr ⟨?_, ?_⟩
    · rw [phasesOf_append, phasesOf_append, hreg.phases]
      rfl
    · cases ha : t'.authorization domain with
      | error f' =>
        rw [ha] at hr
        cases hr
        exact concerns_of_authorization ha
      | ok reply =>
        rw [ha] at hr
        cases reply with
        | challenge c => cases hr
        | unauthorized problem =>
          cases hr
          exact concerns_noHttp01Challenge domain _

theorem Obtaining.obtains {i : Nat} {domain : String} {b b' : Bool} {c : PendingChallenge}
    (h : Obtaining config client i domain b ds (.ok c) b') :
    (phasesOf ds).getLast? = some (.challenge i) ∧ c.domain = domain := by
  generalize hr : (Except.ok c : Except Failure PendingChallenge) = r at h
  cases h with
  | offered _ hc =>
    cases hr
    exact ⟨rfl, domain_of_authorization hc⟩
  | registered _ _ hreg =>
    refine ⟨?_, domain_of_authorization (offered_eq_ok hr.symm)⟩
    rw [phasesOf_append, phasesOf_append, hreg.phases]
    rfl
  | _ => cases hr

theorem Polling.concerns {policy : PollPolicy} {c : PendingChallenge} {remaining : Nat}
    (h : Polling policy c remaining ds (.error f)) : Concerns c.domain f := by
  generalize hr : (Except.error f : Except Failure Unit) = r at h
  induction h with
  | spent =>
    cases hr
    exact concerns_of_named (fun _ => rfl) rfl
  | valid => cases hr
  | failed _ hv =>
    cases hr
    exact concerns_of_verdict hv
  | pending _ _ _ ih => exact ih hr

theorem Polling.phases {policy : PollPolicy} {c : PendingChallenge} {remaining : Nat}
    {r : Except Failure Unit} (h : Polling policy c remaining ds r) : phasesOf ds = [] := by
  induction h with
  | @pending remaining t ds r _ _ _ ih =>
    rw [phasesOf_asked, phasesOf_append, ih, pause]
    split <;> rfl
  | _ => rfl

theorem Completing.phases {c : PendingChallenge} {r : Except Failure Unit}
    (h : Completing config client c ds r) : phasesOf ds = [] := by
  have hdeciding {es : List Deed} (hd : Deciding client config.policy c es r) :
      phasesOf es = [] := by
    cases hd with
    | unactivated => rfl
    | polled _ _ hp => exact hp.phases
  cases h with
  | deaf => rfl
  | @served start es _ hs hd =>
    have hlast : phasesOf (es ++ [.other (.withdrawn c.token)]) = [] := by
      rw [phasesOf_append, hdeciding hd]
      rfl
    rw [phasesOf_append, phasesOf_other rfl, hlast]
    rcases hs with rfl | rfl <;> rfl

theorem Completing.concerns {c : PendingChallenge} (h : Completing config client c ds (.error f)) :
    Concerns c.domain f := by
  cases h with
  | deaf => exact ⟨fun _ => rfl, nofun⟩
  | served _ hd =>
    cases hd with
    | unactivated _ hf =>
      obtain ⟨reason, rfl⟩ := eq_noNonce_of_tolerated hf
      exact concerns_noNonce c.domain reason
    | polled _ _ hp => exact hp.concerns

theorem Writing.fits {certKey : String} {c : IssuedCertificate}
    (h : Writing config certKey c ds (.error f)) : f.fits .certRequest = true := by
  cases h <;> rfl

theorem Fetching.fits {url : String} (h : Fetching config url ds (.error f))
    (hplain : ∀ t ∈ turnsOf ds, IsPlain t) : f.fits .intermediateFetch = true := by
  cases h with
  | @unfetched t _ ht hf =>
    obtain ⟨reason, rfl⟩ := fetch_failure ht (hplain t List.mem_cons_self) hf
    rfl
  | unwritten => rfl

theorem Keeping.fits {keys : KeySupply} {present : Bool}
    (h : Keeping config keys present ds (.error f)) : f.fits .init = true := by
  cases h <;> rfl

end

end Run

end Acme
