import Acme.Program
import Acme.Proofs.Run.Fits
import Acme.Proofs.Run.Loops

/-!
# Where a run halts

A run that fails is left in the phase of the step that failed; if a domain was being authorized, the
cursor stands on it, and it is the one that the failure names (`run_halts`).
-/

namespace Acme

open Session

namespace Run

/-- A run over these domains that ends with a failure may leave this session. -/
structure Halted (domains : List String) (f : Failure) (s : Session) : Prop where
  fits : f.fits s.phase = true
  /-- A domain that is being authorized is the one under the cursor, and the one that is named. -/
  placed : ∀ i, s.phase = .challenge i → s.domains = ⟨domains, i⟩
    ∧ ∃ domain, domains[i]? = some domain ∧ ∀ named, f.domain? = some named → named = domain

/-! ## Actions that may halt a run -/

/-- An action that fails leaves a session in which a run over these domains may end, and one that
does not fail leaves one as told. -/
structure Halts {α : Type} (domains : List String) (s : Session) (a : Action Failure α)
    (Q : α → Session → Prop) : Prop where
  failed : ∀ f, s.outcome a = .error f → Halted domains f (s.after a)
  done : ∀ x, s.outcome a = .ok x → Q x (s.after a)

namespace Halts

variable {α β : Type} {domains : List String} {s : Session} {a : Action Failure α}
  {g : α → Action Failure β} {P : α → Session → Prop} {Q : β → Session → Prop}

theorem pure {x : β} (h : Q x s) : Halts domains s (Pure.pure x) Q := by
  refine ⟨nofun, fun y hy => ?_⟩
  cases hy
  exact h

theorem throw {f : Failure} (h : Halted domains f s) :
    Halts domains s (MonadExcept.throw f : Action Failure β) Q := by
  refine ⟨fun f' hf => ?_, nofun⟩
  cases hf
  exact h

theorem bind (ha : Halts domains s a P) (hg : ∀ x s', P x s' → Halts domains s' (g x) Q) :
    Halts domains s (a >>= g) Q := by
  cases ho : s.outcome a with
  | error f =>
    constructor
    case failed =>
      intro f' hf
      rw [outcome_bind_of_error g ho] at hf
      cases hf
      rw [after_bind_of_error g ho]
      exact ha.failed f ho
    case done =>
      intro x hx
      rw [outcome_bind_of_error g ho] at hx
      cases hx
  | ok x =>
    have hnext := hg x _ (ha.done x ho)
    constructor
    case failed =>
      intro f hf
      rw [outcome_bind_of_ok g ho] at hf
      rw [after_bind_of_ok g ho]
      exact hnext.failed f hf
    case done =>
      intro y hy
      rw [outcome_bind_of_ok g ho] at hy
      rw [after_bind_of_ok g ho]
      exact hnext.done y hy

theorem modify {f : Session → Session} {Q : Unit → Session → Prop} (h : Q () (f s)) :
    Halts domains s (modify f) Q :=
  ⟨nofun, fun _ _ => h⟩

theorem enter {phase : Phase} {Q : Unit → Session → Prop}
    (h : Q () ({ s with phase := phase }.recorded (.entered phase))) :
    Halts domains s (Session.enter phase) Q :=
  ⟨nofun, fun _ _ => h⟩

theorem log {level : Log.Level} {message : String} {fields : List (String × Log.Value)}
    {Q : Unit → Session → Prop} (h : Q () (s.recorded (.logged ⟨level, message, fields⟩))) :
    Halts domains s (Session.log level message fields) Q :=
  ⟨nofun, fun _ _ => h⟩

/-- An action with known deeds that does not move the cursor. -/
theorem of_does {client : Client} {R : Except Failure α → List Deed → Guards → Prop}
    (h : Does client s a R) (hd : (s.after a).domains = s.domains)
    (hfailed : ∀ f ds g s', R (.error f) ds g → Happened client s ds s' →
      s'.domains = s.domains → Halted domains f s')
    (hdone : ∀ x ds g s', R (.ok x) ds g → Happened client s ds s' →
      s'.domains = s.domains → P x s') : Halts domains s a P := by
  obtain ⟨ds, hhappened, hr⟩ := h
  constructor
  case failed =>
    intro f hf
    rw [hf] at hr
    exact hfailed f ds _ _ hr hhappened hd
  case done =>
    intro x hx
    rw [hx] at hr
    exact hdone x ds _ _ hr hhappened hd

end Halts

/-! ## The parts of a run -/

section
variable {config : Config} {client : Client} {s : Session}

theorem Halted.of_fits {domains : List String} {f : Failure} {phase : Phase}
    (hs : s.phase = phase) (hf : f.fits phase = true) (hp : ∀ i, phase ≠ .challenge i) :
    Halted domains f s := by
  subst hs
  exact ⟨hf, fun i hi => absurd hi (hp i)⟩

theorem Halted.of_concerns {domains : List String} {f : Failure} {i : Nat} {domain : String}
    (hs : s.phase = .challenge i) (hdomains : s.domains = ⟨domains, i⟩)
    (hd : domains[i]? = some domain) (hf : Concerns domain f) : Halted domains f s := by
  refine ⟨by rw [hs]; exact hf.1 i, fun j hj => ?_⟩
  rw [hs] at hj
  cases hj
  exact ⟨hdomains, domain, hd, hf.2⟩

theorem phase_of_last {ds : List Deed} {s' : Session} {phase : Phase}
    (h : Happened client s ds s') (hlast : (phasesOf ds).getLast? = some phase) :
    s'.phase = phase := by
  rw [h.phase, hlast]
  rfl

theorem phase_of_none {ds : List Deed} {s' : Session} (h : Happened client s ds s')
    (hnone : phasesOf ds = []) : s'.phase = s.phase := by
  rw [h.phase, hnone]
  rfl

theorem obtainChallenge_halts {i : Nat} {domain : String} (hs : s.domains = ⟨config.domains, i⟩)
    (hd : config.domains[i]? = some domain) :
    Halts config.domains s (obtainChallenge config client i domain) fun c s' =>
      s'.domains = ⟨config.domains, i⟩ ∧ s'.phase = .challenge i ∧ c.domain = domain := by
  refine .of_does (obtainChallenge_follows config i domain)
    (domains_after (.obtainChallenge config client i domain) s) ?_ ?_
  · rintro f ds g s' ⟨b, _, ho⟩ hhappened hdomains
    rcases ho.halts with ⟨hlast, hf⟩ | ⟨hlast, hf⟩
    · exact .of_fits (phase_of_last hhappened hlast) hf nofun
    · exact .of_concerns (phase_of_last hhappened hlast) (hdomains.trans hs) hd hf
  · rintro c ds g s' ⟨b, _, ho⟩ hhappened hdomains
    obtain ⟨hlast, hc⟩ := ho.obtains
    exact ⟨hdomains.trans hs, phase_of_last hhappened hlast, hc⟩

theorem completeChallenge_halts {i : Nat} {domain : String} {c : PendingChallenge}
    (hs : s.domains = ⟨config.domains, i⟩) (hphase : s.phase = .challenge i)
    (hd : config.domains[i]? = some domain) (hc : c.domain = domain) :
    Halts config.domains s (completeChallenge client config.httpBind config.policy c)
      fun _ s' => s'.domains = ⟨config.domains, i⟩ := by
  subst hc
  refine .of_does (completeChallenge_follows config c)
    (domains_after (.completeChallenge client _ _ c) s) ?_ ?_
  · rintro f ds g s' ⟨_, hcompleting⟩ hhappened hdomains
    have hp := (phase_of_none hhappened hcompleting.phases).trans hphase
    exact .of_concerns hp (hdomains.trans hs) hd hcompleting.concerns
  · rintro _ ds g s' _ _ hdomains
    exact hdomains.trans hs

theorem authorizeFrom_halts {i : Nat} {rest : List String} (hrest : config.domains.drop i = rest)
    (hs : s.domains = ⟨config.domains, i⟩) :
    Halts config.domains s (authorizeFrom config client i rest)
      fun _ s' => s'.domains.domains = config.domains := by
  -- On the domains behind the cursor, which moves when one of them has been authorized.
  induction rest generalizing i s with
  | nil => exact .pure (by rw [hs])
  | cons domain rest ih =>
    have hd : config.domains[i]? = some domain := by
      rw [← List.head?_drop, hrest]
      rfl
    have hnext : config.domains.drop (i + 1) = rest := by
      rw [← List.tail_drop, hrest]
      rfl
    have hpassed : Halts config.domains s (authorizeDomain config client i domain)
        fun _ s' => s'.domains = ⟨config.domains, i + 1⟩ := by
      refine (obtainChallenge_halts hs hd).bind ?_
      rintro c s₁ ⟨h₁, hphase, hc⟩
      refine (completeChallenge_halts h₁ hphase hd hc).bind fun _ s₂ h₂ => .modify ?_
      show s₂.domains.advance = _
      rw [h₂]
      exact if_pos (List.getElem?_eq_some_iff.1 hd).1
    exact hpassed.bind fun _ s₁ h₁ => ih hnext h₁

/-- The phase and the domains are these. -/
def Stands (domains : List String) (phase : Phase) (s : Session) : Prop :=
  s.phase = phase ∧ s.domains.domains = domains

theorem authorizeAndRequest_halts {certKey : String} (hs : s.domains.domains = config.domains) :
    Halts config.domains s (authorizeAndRequest config client certKey)
      fun _ s' => Stands config.domains .certRequest s' := by
  have hauthorize : Halts config.domains s (authorizeDomains config client)
      fun _ s' => s'.domains.domains = config.domains := by
    refine Halts.bind (P := fun _ s' => s'.domains.domains = config.domains) (.enter hs) ?_
    intro _ s₁ h₁
    refine Halts.bind (P := fun _ s' => s'.domains = ⟨config.domains, 0⟩) (.modify ?_) ?_
    · show s₁.domains.reset = _
      rw [DomainList.reset, h₁]
    · exact fun _ s₂ h₂ => authorizeFrom_halts List.drop_zero h₂
  refine hauthorize.bind fun _ s₁ h₁ => ?_
  refine Halts.bind (P := fun _ s' => Stands config.domains .certRequest s') (.enter ⟨rfl, h₁⟩) ?_
  rintro _ s₂ ⟨hphase, h₂⟩
  refine .of_does (requestCertificate_follows certKey config.domains)
    (domains_after (.requestCertificate client certKey config.domains) s₂) ?_ ?_
  · rintro f ds g s' ⟨_, h⟩ hhappened _
    rcases h with ⟨e, _, rfl, hf⟩ | ⟨request, _, t, _, rfl, hf⟩
    · cases hf
      exact .of_fits ((phase_of_none hhappened rfl).trans hphase) rfl nofun
    · exact .of_fits ((phase_of_none hhappened rfl).trans hphase)
        (fits_of_certificate hf.symm) nofun
  · rintro x ds g s' ⟨_, h⟩ hhappened hdomains
    refine ⟨?_, by rw [hdomains, h₂]⟩
    rcases h with ⟨e, _, rfl, _⟩ | ⟨request, _, t, _, rfl, _⟩
    · exact (phase_of_none hhappened rfl).trans hphase
    · exact (phase_of_none hhappened rfl).trans hphase

theorem issue_halts {certKey : String} (hs : s.domains.domains = config.domains) :
    Halts config.domains s (issue config client certKey)
      fun _ s' => Stands config.domains .certRequest s' := by
  refine (authorizeAndRequest_halts hs).bind fun reply s₁ h₁ => ?_
  cases reply with
  | issued certificate => exact .pure h₁
  | unauthorized problem =>
    refine Halts.bind (P := fun _ s' => Stands config.domains .certRequest s') (.log h₁) ?_
    intro _ s₂ h₂
    refine Halts.bind (P := fun _ s' => Stands config.domains .certRequest s') (.modify h₂) ?_
    intro _ s₃ h₃
    refine (authorizeAndRequest_halts h₃.2).bind fun reply s₄ h₄ => ?_
    cases reply with
    | issued certificate => exact .pure h₄
    | unauthorized problem => exact .throw (.of_fits h₄.1 rfl nofun)

theorem writeCertificate_halts {certKey : String} {c : IssuedCertificate}
    (hs : s.phase = .certRequest) :
    Halts config.domains s
      (writeCertificate ⟨config.destination⟩ (config.domains.headD "") certKey c)
      fun _ _ => True := by
  refine .of_does (@writeCertificate_follows ⟨config.endpoints, anyAccount⟩ s config certKey c)
    (domains_after (.writeCertificate _ _ certKey c) s) ?_ fun _ _ _ _ _ _ _ => trivial
  rintro f ds g s' ⟨_, r, hw, hr⟩ hhappened _
  cases r with
  | ok u => cases hr
  | error f' =>
    cases hr
    exact .of_fits ((phase_of_none hhappened hw.phases).trans hs) hw.fits nofun

theorem fetchIntermediate_halts {url : String} (hs : s.phase = .intermediateFetch) :
    Halts config.domains s (fetchIntermediate ⟨config.destination⟩ url) fun _ _ => True := by
  refine .of_does (@fetchIntermediate_follows ⟨config.endpoints, anyAccount⟩ s config url)
    (domains_after (.fetchIntermediate _ url) s) ?_ fun _ _ _ _ _ _ _ => trivial
  rintro f ds g s' ⟨_, r, hfetch, hr⟩ hhappened _
  cases r with
  | ok u => cases hr
  | error f' =>
    cases hr
    have hphase := (phase_of_none hhappened hfetch.phases).trans hs
    exact .of_fits hphase (hfetch.fits (isPlain_of_conversation hhappened.conversation)) nofun

theorem register_halts (hs : s.domains.domains = config.domains) :
    Halts config.domains s (register config client)
      fun _ s' => s'.domains.domains = config.domains := by
  refine .of_does (register_follows config) (domains_after (.register config client) s) ?_ ?_
  · rintro f ds g s' ⟨_, hr⟩ hhappened _
    refine .of_fits (phase_of_last hhappened ?_) hr.fits nofun
    rw [hr.phases]
    rfl
  · intro _ _ _ s' _ _ hdomains
    rw [hdomains, hs]

/-- From the first nonce on, the run halts where it may or ends in the last phase. -/
theorem runWith_halts {isNew : Bool} {certKey : String} (hs : s.domains.domains = config.domains) :
    Halts config.domains s (runWith config client isNew certKey) fun _ s' => s'.phase = .done := by
  have henrol {K : Unit → Action Failure IssuedFiles} {Q : IssuedFiles → Session → Prop}
      {s : Session} (hs : s.domains.domains = config.domains)
      (hK : ∀ s u, s.domains.domains = config.domains → Halts config.domains s (K u) Q) :
      Halts config.domains s (if isNew = true then register config client >>= K else K ()) Q := by
    split
    · exact (register_halts hs).bind fun u s₁ h₁ => hK s₁ u h₁
    · exact hK s () hs
  refine Halts.bind (P := fun _ s' => Stands config.domains .nonce s') (.enter ⟨rfl, hs⟩) ?_
  rintro _ s₁ ⟨hphase, h₁⟩
  have hnonce : Halts config.domains s₁ client.refreshNonce
      fun _ s' => s'.domains.domains = config.domains := by
    refine .of_does refreshNonce_does (domains_after (.refreshNonce client) s₁) ?_ ?_
    · rintro f ds g s' ⟨_, t, _, rfl, h, _⟩ hhappened _
      rcases h with h | ⟨reason, h⟩ <;> cases h
      exact .of_fits ((phase_of_none hhappened rfl).trans hphase) rfl nofun
    · intro _ _ _ s' _ _ hdomains
      rw [hdomains, h₁]
  refine hnonce.bind fun _ s₂ h₂ => henrol h₂ fun s₃ _ h₃ => ?_
  refine (issue_halts h₃).bind fun certificate s₄ h₄ => ?_
  refine (writeCertificate_halts h₄.1).bind fun _ s₅ _ => ?_
  refine Halts.bind (P := fun _ s' => s'.phase = .intermediateFetch) (.enter rfl) ?_
  intro _ s₆ h₆
  refine (fetchIntermediate_halts h₆).bind fun _ s₇ _ => ?_
  refine Halts.bind (P := fun _ s' => s'.phase = .done) (.enter rfl) fun _ s₈ h₈ => ?_
  exact Halts.bind (P := fun _ s' => s'.phase = .done) (.log h₈) fun _ _ h₉ => .pure h₉

theorem run_halts_or_done (config : Config) (keys : KeySupply) (s : Session) :
    Halts config.domains s (run config keys) fun _ s' => s'.phase = .done := by
  have hbegin : Halts config.domains s (begin config)
      fun _ s' => Stands config.domains .init s' := by
    refine Halts.bind (P := fun _ s' => s'.domains.domains = config.domains) (.modify rfl) ?_
    exact fun _ s₁ h₁ => .enter ⟨rfl, h₁⟩
  refine hbegin.bind fun _ s₁ h₁ => ?_
  have haccount : Halts config.domains s₁ (ensureAccount config keys)
      fun _ s' => Stands config.domains .init s' := by
    refine .of_does (@ensureAccount_follows ⟨config.endpoints, anyAccount⟩ s₁ config keys)
      (domains_after (.ensureAccount config keys) s₁) ?_ ?_
    · rintro f ds g s' ⟨_, hk, _⟩ hhappened _
      exact .of_fits ((phase_of_none hhappened hk.early.1).trans h₁.1) hk.fits nofun
    · rintro x ds g s' ⟨_, hk, _⟩ hhappened hdomains
      exact ⟨(phase_of_none hhappened hk.early.1).trans h₁.1, by rw [hdomains, h₁.2]⟩
  refine haccount.bind fun account s₂ h₂ => ?_
  refine Halts.bind (P := fun _ s' => Stands config.domains .init s') (.log h₂) ?_
  intro _ s₃ h₃
  cases keys.certificate config.certKeyBits with
  | error e => exact .throw (.of_fits h₃.1 rfl nofun)
  | ok certKey => exact runWith_halts h₃.2

end

theorem phases_run (config : Config) (keys : KeySupply) (s : Session) :
    ∃ entered, (s.after (run config keys)).phases = s.phases ++ entered
      ∧ entered.getLast? = some (s.after (run config keys)).phase := by
  obtain ⟨account, deeds, htold⟩ := run_follows config keys s
  refine ⟨phasesOf deeds, htold.happened.phases, ?_⟩
  obtain ⟨es, rfl, _⟩ := htold.running.heeds
  rw [htold.happened.phase, phasesOf_entered, List.getLast?_cons]
  rfl

end Run

/-! ## Exit codes -/

theorem exitStatus_exitCode (f : Failure) : exitStatus f.exitCode = f.exitCode := by
  cases f <;> rfl

/-- The codes 0 and 1 are left to runs that succeed and to those that never start. -/
theorem two_le_exitCode (f : Failure) : 2 ≤ f.exitCode := by
  cases f <;> exact Nat.le_of_ble_eq_true rfl

theorem exitCode_eq_two {f : Failure} (h : f.exitCode = 2) :
    ∃ path reason, f = .accountKeyWrite path reason := by
  cases f <;> first | exact ⟨_, _, rfl⟩ | cases h

def exitCodeOf : Except Failure IssuedFiles → Nat
  | .ok _ => 0
  | .error f => f.exitCode

namespace Plan

theorem snd_perform (plan : Plan) (keys : KeySupply) (s : Session) :
    (plan.perform keys s).2 = s.after (run plan.config keys) := by
  rw [perform, Session.after]
  cases run plan.config keys s <;> rfl

theorem exitCode_perform (plan : Plan) (keys : KeySupply) (s : Session) :
    (plan.perform keys s).1.exitCode = exitCodeOf (s.outcome (run plan.config keys)) := by
  rw [perform, Session.outcome]
  cases run plan.config keys s with
  | ok files s' => rfl
  | error f s' => exact exitStatus_exitCode f

end Plan

/-- How every run ends: in the phase that it entered last, which is the last of all if and only if
there is a certificate. After a failure it is one of those that the failure fits, and the cursor
stands on the domain that was being authorized. The exit code says the same. -/
theorem Run.run_halts (plan : Plan) (keys : KeySupply) (s : Session) :
    let r := s.outcome (run plan.config keys)
    let s' := s.after (run plan.config keys)
    (∃ entered, s'.phases = s.phases ++ entered ∧ entered.getLast? = some s'.phase)
      ∧ (s'.phase = .done ↔ ∃ files, r = .ok files)
      ∧ (∀ f, r = .error f → Halted plan.config.domains f s')
      ∧ (plan.perform keys s).2 = s'
      ∧ ((plan.perform keys s).1.exitCode = 0 ↔ s'.phase = .done)
      ∧ ∀ f, r = .error f → (plan.perform keys s).1.exitCode = f.exitCode := by
  have hhalts := run_halts_or_done plan.config keys s
  have hcode := plan.exitCode_perform keys s
  have hdone : (s.after (run plan.config keys)).phase = .done
      ↔ ∃ files, s.outcome (run plan.config keys) = .ok files := by
    constructor
    · intro hphase
      cases ho : s.outcome (run plan.config keys) with
      | ok files => exact ⟨files, rfl⟩
      | error f =>
        have hfits := (hhalts.failed f ho).fits
        rw [hphase, Failure.fits_done] at hfits
        cases hfits
    · rintro ⟨files, ho⟩
      exact hhalts.done files ho
  refine ⟨phases_run plan.config keys s, hdone, hhalts.failed, plan.snd_perform keys s, ?_, ?_⟩
  · rw [hcode, hdone]
    cases s.outcome (run plan.config keys) with
    | ok files => exact iff_of_true rfl ⟨files, rfl⟩
    | error f => exact iff_of_false (Nat.ne_of_gt (Nat.zero_lt_of_lt (two_le_exitCode f))) nofun
  · intro f ho
    rw [hcode, ho, exitCodeOf]

end Acme
