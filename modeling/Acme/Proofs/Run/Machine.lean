import Acme.Proofs.Run.Course
import Mathlib.Data.List.Chain

/-!
# The machine of a run

The places that a run passes through, the edges between them, and the guards that allow an edge to be
taken once only. A trail takes the machine along the deeds of a run (`Trail`); what holds of all
trails is shown by induction on them.
-/

namespace Acme.Run

/-! ## Places -/

/-- A place of the machine; the two occasions for a registration are told apart. -/
inductive Place
  | init
  | nonce
  | enrolment
  | authStart
  | challenge (index : Nat)
  | correction (index : Nat)
  | certRequest
  | intermediateFetch
  | done
  deriving DecidableEq

namespace Place

/-- The phase of a run at a place. -/
def phase : Place → Phase
  | init => .init
  | nonce => .nonce
  | enrolment => .register
  | authStart => .authStart
  | challenge index => .challenge index
  | correction _ => .register
  | certRequest => .certRequest
  | intermediateFetch => .intermediateFetch
  | done => .done

def isOpened : Place → Bool
  | init => false
  | nonce => false
  | enrolment => false
  | _ => true

theorem phase_eq_done {p : Place} : p.phase = .done ↔ p = .done := by
  cases p <;> simp [phase]

end Place

/-- The edges of the machine for a number of domains and an account that is new or not. -/
inductive Edge (n : Nat) (isNew : Bool) : Place → Place → Prop
  | nonce : Edge n isNew .init .nonce
  | enrol (h : isNew = true) : Edge n isNew .nonce .enrolment
  | skip (h : isNew = false) : Edge n isNew .nonce .authStart
  | enrolled : Edge n isNew .enrolment .authStart
  | first : Edge n isNew .authStart (.challenge 0)
  | next {i : Nat} (h : i + 1 < n) : Edge n isNew (.challenge i) (.challenge (i + 1))
  | last {i : Nat} (h : i + 1 = n) : Edge n isNew (.challenge i) .certRequest
  | correct {i : Nat} : Edge n isNew (.challenge i) (.correction i)
  | corrected {i : Nat} : Edge n isNew (.correction i) (.challenge i)
  | restart : Edge n isNew .certRequest .authStart
  | issued : Edge n isNew .certRequest .intermediateFetch
  | finish : Edge n isNew .intermediateFetch .done

theorem Edge.isOpened {n : Nat} {isNew : Bool} {p q : Place} (e : Edge n isNew p q)
    (h : p.isOpened = true) : q.isOpened = true := by
  cases e <;> first | rfl | exact h

theorem edge_iff_ne_done (n : Nat) (isNew : Bool) (p : Place) :
    (∃ q, Edge n isNew p q) ↔ p ≠ .done := by
  constructor
  · rintro ⟨q, h⟩ rfl
    cases h
  · intro h
    cases p with
    | init => exact ⟨_, .nonce⟩
    | nonce =>
      cases isNew with
      | true => exact ⟨_, .enrol rfl⟩
      | false => exact ⟨_, .skip rfl⟩
    | enrolment => exact ⟨_, .enrolled⟩
    | authStart => exact ⟨_, .first⟩
    | challenge i => exact ⟨_, .correct⟩
    | correction i => exact ⟨_, .corrected⟩
    | certRequest => exact ⟨_, .restart⟩
    | intermediateFetch => exact ⟨_, .finish⟩
    | done => exact absurd rfl h

/-- A path of the machine from its first place. -/
def IsPath (n : Nat) (isNew : Bool) (places : List Place) : Prop :=
  places.head? = some .init ∧ places.IsChain (Edge n isNew)

def IsMaximal (n : Nat) (isNew : Bool) (places : List Place) : Prop :=
  ∀ q, ¬ IsPath n isNew (places ++ [q])

theorem isMaximal_iff {n : Nat} {isNew : Bool} {places : List Place} {p : Place}
    (h : IsPath n isNew places) (hp : places.getLast? = some p) :
    IsMaximal n isNew places ↔ p = .done := by
  have hlonger (q : Place) : IsPath n isNew (places ++ [q]) ↔ Edge n isNew p q := by
    rw [IsPath, List.isChain_append, hp]
    constructor
    · rintro ⟨_, _, _, hedge⟩
      exact hedge p rfl q rfl
    · intro hedge
      refine ⟨?_, h.2, .singleton q, ?_⟩
      · rw [List.head?_append, h.1]
        rfl
      · intro x hx y hy
        cases hx
        cases hy
        exact hedge
  rw [← not_iff_not]
  exact Iff.trans (by rw [IsMaximal, not_forall]; simp only [hlonger, not_not]) (edge_iff_ne_done n isNew p)

/-! ## Refusals -/

variable (client : Client)

def AuthorizationRefused (t : Turn) : Prop :=
  ∃ domain problem, t.ask = client.authorizationAsk domain
    ∧ t.authorization domain = .ok (.unauthorized problem)

/-- The CA does not issue the certificate, for want of authorizations. -/
def CertificateRefused (t : Turn) : Prop :=
  ∃ request problem, t.ask = client.certificateAsk request
    ∧ t.certificate client.endpoints.newCert = .ok (.unauthorized problem)

/-- A request of the two kinds that may be refused so. -/
def isRefusable : Ask → Bool
  | .signed _ (.newAuthorization _) => true
  | .signed _ (.newCertificate _) => true
  | _ => false

variable {client} {t : Turn}

theorem AuthorizationRefused.isRefusable (h : AuthorizationRefused client t) :
    isRefusable t.ask = true := by
  obtain ⟨domain, _, ht, _⟩ := h
  rw [ht]
  rfl

theorem CertificateRefused.isRefusable (h : CertificateRefused client t) :
    isRefusable t.ask = true := by
  obtain ⟨request, _, ht, _⟩ := h
  rw [ht]
  rfl

theorem authorizationRefused_iff {domain : String} (ht : t.ask = client.authorizationAsk domain) :
    AuthorizationRefused client t
      ↔ ∃ problem, t.authorization domain = .ok (.unauthorized problem) := by
  constructor
  · rintro ⟨domain', problem, ht', h⟩
    rw [ht] at ht'
    injection ht' with _ hp
    injection hp with hd
    rw [hd]
    exact ⟨problem, h⟩
  · rintro ⟨problem, h⟩
    exact ⟨domain, problem, ht, h⟩

theorem certificateRefused_iff {request : CertificateRequest}
    (ht : t.ask = client.certificateAsk request) :
    CertificateRefused client t
      ↔ ∃ problem, t.certificate client.endpoints.newCert = .ok (.unauthorized problem) := by
  constructor
  · rintro ⟨_, problem, _, h⟩
    exact ⟨problem, h⟩
  · rintro ⟨problem, h⟩
    exact ⟨request, problem, ht, h⟩

theorem not_certificateRefused {domain : String} (ht : t.ask = client.authorizationAsk domain) :
    ¬ CertificateRefused client t := by
  rintro ⟨request, _, ht', _⟩
  rw [ht] at ht'
  injection ht' with _ hp
  exact Payload.noConfusion hp

theorem AuthorizationRefused.not_certificateRefused (h : AuthorizationRefused client t) :
    ¬ CertificateRefused client t := by
  obtain ⟨domain, _, ht, _⟩ := h
  exact Run.not_certificateRefused ht

theorem not_authorizationRefused {request : CertificateRequest}
    (ht : t.ask = client.certificateAsk request) : ¬ AuthorizationRefused client t := by
  rintro ⟨domain, _, ht', _⟩
  rw [ht] at ht'
  injection ht' with _ hp
  exact Payload.noConfusion hp

/-! ## Trails -/

/-- Where the machine is, with the guards. -/
structure Station where
  place : Place
  guards : Guards := {}

/-- An edge is taken when a phase is entered; registration only if it was not attempted before. -/
inductive Move (n : Nat) (isNew : Bool) : Station → Station → Prop
  | free {p q : Place} {g : Guards} (e : Edge n isNew p q) (hq : q.phase ≠ .register)
    (hp : p = .certRequest → q ≠ .authStart) : Move n isNew ⟨p, g⟩ ⟨q, g⟩
  | register {p q : Place} {g : Guards} (e : Edge n isNew p q) (hq : q.phase = .register)
    (hg : g.registered = false) : Move n isNew ⟨p, g⟩ ⟨q, { g with registered := true }⟩

namespace Move

variable {n : Nat} {isNew : Bool} {σ τ : Station}

theorem edge (m : Move n isNew σ τ) : Edge n isNew σ.place τ.place := by
  cases m with
  | free e => exact e
  | register e => exact e

theorem authorized (m : Move n isNew σ τ) : τ.guards.authorized = σ.guards.authorized := by
  cases m with
  | free => rfl
  | register => rfl

theorem count_register (m : Move n isNew σ τ) :
    [τ.place.phase].count .register + σ.guards.registered.toNat
      = τ.guards.registered.toNat := by
  cases m with
  | free e hq =>
    rw [List.count_cons_of_ne hq, List.count_nil, Nat.zero_add]
  | register e hq hg =>
    rw [hq, hg]
    rfl

theorem count_authStart (m : Move n isNew σ τ) :
    [τ.place.phase].count .authStart + (σ.place.isOpened.toNat + σ.guards.authorized.toNat)
      = τ.place.isOpened.toNat + τ.guards.authorized.toNat := by
  cases m with
  | free e hq hp =>
    cases e with
    | restart => exact absurd rfl (hp rfl)
    | skip => exact (Nat.add_assoc 1 0 _).symm
    | enrolled => exact (Nat.add_assoc 1 0 _).symm
    | enrol => exact absurd rfl hq
    | correct => exact absurd rfl hq
    | _ => exact Nat.zero_add _
  | register e hq hg =>
    cases e with
    | enrol => exact Nat.zero_add _
    | correct => exact Nat.zero_add _
    | _ => exact Phase.noConfusion hq

end Move

variable (client) in
/-- Deeds take the machine from one station to another. A refusal for which the guards have no
correction is the last deed, and halts the machine with an exit code. -/
inductive Trail (n : Nat) (isNew : Bool) : Station → List Deed → Station → Option Nat → Prop
  | nil (σ : Station) : Trail n isNew σ [] σ none
  | other {σ τ : Station} {event : Event} {ds : List Deed} {halt : Option Nat}
    (he : event.phase? = none) (rest : Trail n isNew σ ds τ halt) :
    Trail n isNew σ (.other event :: ds) τ halt
  | asked {σ τ : Station} {t : Turn} {ds : List Deed} {halt : Option Nat}
    (ha : AuthorizationRefused client t → σ.guards.registered = false)
    (hc : ¬ CertificateRefused client t) (rest : Trail n isNew σ ds τ halt) :
    Trail n isNew σ (.asked t :: ds) τ halt
  | enter {σ τ υ : Station} {ds : List Deed} {halt : Option Nat} (m : Move n isNew σ τ)
    (rest : Trail n isNew τ ds υ halt) :
    Trail n isNew σ (entering τ.place.phase :: ds) υ halt
  | restart {g : Guards} {τ : Station} {t : Turn} {ds : List Deed} {halt : Option Nat}
    (hc : CertificateRefused client t) (hg : g.authorized = false)
    (rest : Trail n isNew ⟨.authStart, { g with authorized := true }⟩ ds τ halt) :
    Trail n isNew ⟨.certRequest, g⟩ (.asked t :: entering .authStart :: ds) τ halt
  | refused {σ : Station} {t : Turn} (ha : AuthorizationRefused client t)
    (hg : σ.guards.registered = true) : Trail n isNew σ [.asked t] σ (some 6)
  | barred {σ : Station} {t : Turn} (hc : CertificateRefused client t)
    (hg : σ.guards.authorized = true) : Trail n isNew σ [.asked t] σ (some 9)

namespace Trail

variable {n : Nat} {isNew : Bool} {σ τ υ : Station} {ds es : List Deed} {halt : Option Nat}

theorem append (h : Trail client n isNew σ ds τ none) (h' : Trail client n isNew τ es υ halt) :
    Trail client n isNew σ (ds ++ es) υ halt := by
  -- Only a trail that has not halted goes on.
  generalize hnone : (none : Option Nat) = halted at h
  induction h with
  | nil σ => exact h'
  | other he _ ih => exact .other he (ih h' hnone)
  | asked ha hc _ ih => exact .asked ha hc (ih h' hnone)
  | enter m _ ih => exact .enter m (ih h' hnone)
  | restart hc hg _ ih => exact .restart hc hg (ih h' hnone)
  | refused => cases hnone
  | barred => cases hnone

/-! ## What holds of every trail -/

/-- The phases entered are those of a path along the edges. -/
theorem path (h : Trail client n isNew σ ds τ halt) :
    ∃ places : List Place, phasesOf ds = places.map Place.phase
      ∧ (σ.place :: places).IsChain (Edge n isNew)
      ∧ (σ.place :: places).getLast? = some τ.place := by
  induction h with
  | nil σ => exact ⟨[], rfl, .singleton _, rfl⟩
  | other he _ ih =>
    rw [phasesOf_other he]
    exact ih
  | asked _ _ _ ih => exact ih
  | @enter σ τ _ _ _ m _ ih =>
    obtain ⟨places, hphases, hchain, hlast⟩ := ih
    refine ⟨τ.place :: places, ?_, .cons_cons m.edge hchain, ?_⟩
    · rw [phasesOf_entered, hphases, List.map_cons]
    · rw [List.getLast?_cons_cons]
      exact hlast
  | restart _ _ _ ih =>
    obtain ⟨places, hphases, hchain, hlast⟩ := ih
    refine ⟨.authStart :: places, ?_, .cons_cons .restart hchain, ?_⟩
    · rw [phasesOf_asked, phasesOf_entered, hphases]
      rfl
    · rw [List.getLast?_cons_cons]
      exact hlast
  | refused => exact ⟨[], rfl, .singleton _, rfl⟩
  | barred => exact ⟨[], rfl, .singleton _, rfl⟩

/-- Registration is entered as often as its guard is set. -/
theorem count_register (h : Trail client n isNew σ ds τ halt) :
    (phasesOf ds).count .register + σ.guards.registered.toNat = τ.guards.registered.toNat := by
  induction h with
  | nil σ => exact Nat.zero_add _
  | other he _ ih =>
    rw [phasesOf_other he]
    exact ih
  | asked _ _ _ ih => exact ih
  | enter m _ ih =>
    have hm := m.count_register
    rw [phasesOf_entered, ← List.singleton_append, List.count_append]
    omega
  | restart _ _ _ ih =>
    rw [phasesOf_asked, phasesOf_entered, List.count_cons_of_ne Phase.noConfusion]
    exact ih
  | refused => exact Nat.zero_add _
  | barred => exact Nat.zero_add _

/-- The domains begin to be authorized once, and once more when the second guard is set. -/
theorem count_authStart (h : Trail client n isNew σ ds τ halt) :
    (phasesOf ds).count .authStart + (σ.place.isOpened.toNat + σ.guards.authorized.toNat)
      = τ.place.isOpened.toNat + τ.guards.authorized.toNat := by
  induction h with
  | nil σ => exact Nat.zero_add _
  | other he _ ih =>
    rw [phasesOf_other he]
    exact ih
  | asked _ _ _ ih => exact ih
  | enter m _ ih =>
    have hm := m.count_authStart
    rw [phasesOf_entered, ← List.singleton_append, List.count_append]
    omega
  | restart _ hg _ ih =>
    rw [phasesOf_asked, phasesOf_entered, List.count_cons_self, hg, ← ih]
    exact Nat.add_right_comm _ 1 _
  | refused => exact Nat.zero_add _
  | barred => exact Nat.zero_add _

theorem isOpened (h : Trail client n isNew σ ds τ halt)
    (hσ : σ.guards.authorized = true → σ.place.isOpened = true) :
    τ.guards.authorized = true → τ.place.isOpened = true := by
  induction h with
  | nil => exact hσ
  | other _ _ ih => exact ih hσ
  | asked _ _ _ ih => exact ih hσ
  | enter m _ ih =>
    refine ih fun ha => ?_
    rw [m.authorized] at ha
    exact m.edge.isOpened (hσ ha)
  | restart _ _ _ ih => exact ih fun _ => rfl
  | refused => exact hσ
  | barred => exact hσ

/-- From the start on, registration was entered if and only if its guard is set. -/
theorem registered_iff (h : Trail client n isNew ⟨.init, {}⟩ ds τ halt) :
    τ.guards.registered = true ↔ .register ∈ phasesOf ds := by
  have hcount : (phasesOf ds).count .register = τ.guards.registered.toNat := h.count_register
  rw [← List.count_pos_iff, hcount]
  cases τ.guards.registered <;> simp

/-- From the start on, the domains began to be authorized twice if and only if the second guard is
set. -/
theorem restarted_iff (h : Trail client n isNew ⟨.init, {}⟩ ds τ halt) :
    τ.guards.authorized = true ↔ (phasesOf ds).count .authStart = 2 := by
  have hcount : (phasesOf ds).count .authStart
      = τ.place.isOpened.toNat + τ.guards.authorized.toNat := h.count_authStart
  have hopened := h.isOpened fun h => (by cases h)
  rw [hcount]
  cases ha : τ.guards.authorized with
  | true =>
    rw [hopened ha]
    exact iff_of_true rfl rfl
  | false =>
    refine iff_of_false Bool.false_ne_true fun h => ?_
    have hle := Bool.toNat_le τ.place.isOpened
    rw [Bool.toNat_false] at h
    omega

/-- The second guard is set when the CA has refused the certificate, and only then. -/
theorem authorized_iff (h : Trail client n isNew σ ds τ halt) :
    τ.guards.authorized = true
      ↔ σ.guards.authorized = true ∨ ∃ t ∈ turnsOf ds, CertificateRefused client t := by
  have skip {t : Turn} {turns : List Turn} (ht : ¬ CertificateRefused client t) :
      (∃ t' ∈ t :: turns, CertificateRefused client t')
        ↔ ∃ t' ∈ turns, CertificateRefused client t' := by
    constructor
    · rintro ⟨t', hmem, ht'⟩
      rcases List.mem_cons.1 hmem with rfl | hmem
      · exact absurd ht' ht
      · exact ⟨t', hmem, ht'⟩
    · rintro ⟨t', hmem, ht'⟩
      exact ⟨t', List.mem_cons_of_mem _ hmem, ht'⟩
  induction h with
  | nil σ =>
    refine ⟨Or.inl, ?_⟩
    rintro (h | ⟨t, hmem, _⟩)
    · exact h
    · exact absurd hmem List.not_mem_nil
  | other _ _ ih => exact ih
  | asked _ hc _ ih =>
    rw [turnsOf_asked, skip hc]
    exact ih
  | enter m _ ih =>
    rw [m.authorized] at ih
    exact ih
  | restart hc _ _ ih => exact ⟨fun _ => .inr ⟨_, List.mem_cons_self, hc⟩, fun _ => ih.2 (.inl rfl)⟩
  | refused ha =>
    rw [turnsOf_asked, skip ha.not_certificateRefused]
    refine ⟨Or.inl, ?_⟩
    rintro (h | ⟨t, hmem, _⟩)
    · exact h
    · exact absurd hmem List.not_mem_nil
  | barred _ hg => exact ⟨Or.inl, fun _ => hg⟩

/-- A trail falls into those before and from any of its turns. -/
theorem split {before after : List Deed} {t : Turn}
    (h : Trail client n isNew σ (before ++ .asked t :: after) τ halt) :
    ∃ ρ, Trail client n isNew σ before ρ none ∧ Trail client n isNew ρ (.asked t :: after) τ halt := by
  generalize hds : before ++ .asked t :: after = ds at h
  induction h generalizing before with
  | nil σ => exact absurd hds (by simp)
  | @other σ _ _ _ _ he rest ih =>
    cases before with
    | nil => cases hds
    | cons deed before =>
      cases hds
      obtain ⟨ρ, h1, h2⟩ := ih rfl
      exact ⟨ρ, .other he h1, h2⟩
  | @asked σ _ _ _ _ ha hc rest ih =>
    cases before with
    | nil =>
      cases hds
      exact ⟨σ, .nil σ, .asked ha hc rest⟩
    | cons deed before =>
      cases hds
      obtain ⟨ρ, h1, h2⟩ := ih rfl
      exact ⟨ρ, .asked ha hc h1, h2⟩
  | enter m rest ih =>
    cases before with
    | nil => cases hds
    | cons deed before =>
      cases hds
      obtain ⟨ρ, h1, h2⟩ := ih rfl
      exact ⟨ρ, .enter m h1, h2⟩
  | restart hc hg rest ih =>
    match before with
    | [] =>
      cases hds
      exact ⟨_, .nil _, .restart hc hg rest⟩
    | [_] => cases hds
    | _ :: _ :: before =>
      cases hds
      obtain ⟨ρ, h1, h2⟩ := ih rfl
      exact ⟨ρ, .restart hc hg h1, h2⟩
  | refused ha hg =>
    cases before with
    | nil =>
      cases hds
      exact ⟨_, .nil _, .refused ha hg⟩
    | cons deed before =>
      rw [List.cons_append] at hds
      exact absurd (List.cons.inj hds).2 (by simp)
  | barred hc hg =>
    cases before with
    | nil =>
      cases hds
      exact ⟨_, .nil _, .barred hc hg⟩
    | cons deed before =>
      rw [List.cons_append] at hds
      exact absurd (List.cons.inj hds).2 (by simp)

/-- Once registration was attempted, a refused authorization is the last deed. -/
theorem halt_of_authorizationRefused {before after : List Deed} {t : Turn}
    (h : Trail client n isNew σ (before ++ .asked t :: after) τ halt)
    (hr : .register ∈ phasesOf before) (ha : AuthorizationRefused client t) :
    after = [] ∧ halt = some 6 := by
  obtain ⟨ρ, hbefore, hfrom⟩ := h.split
  have hregistered : ρ.guards.registered = true := by
    have hcount := hbefore.count_register
    have hpos : 0 < (phasesOf before).count .register := List.count_pos_iff.2 hr
    cases hg : ρ.guards.registered with
    | true => rfl
    | false =>
      rw [hg, Bool.toNat_false] at hcount
      omega
  cases hfrom with
  | asked hfree _ _ =>
    rw [hfree ha] at hregistered
    cases hregistered
  | restart hc _ _ => exact absurd hc ha.not_certificateRefused
  | refused => exact ⟨rfl, rfl⟩
  | barred hc _ => exact absurd hc ha.not_certificateRefused

/-- Once the CA has refused the certificate, refusing it again is the last deed. -/
theorem halt_of_certificateRefused {before after : List Deed} {t : Turn}
    (h : Trail client n isNew σ (before ++ .asked t :: after) τ halt)
    (hr : ∃ t' ∈ turnsOf before, CertificateRefused client t') (hc : CertificateRefused client t) :
    after = [] ∧ halt = some 9 := by
  obtain ⟨ρ, hbefore, hfrom⟩ := h.split
  have hauthorized : ρ.guards.authorized = true := hbefore.authorized_iff.2 (.inr hr)
  cases hfrom with
  | asked _ hfree _ => exact absurd hc hfree
  | restart _ hg _ =>
    rw [hg] at hauthorized
    cases hauthorized
  | refused ha _ => exact absurd hc ha.not_certificateRefused
  | barred => exact ⟨rfl, rfl⟩

end Trail

end Acme.Run
