import Acme.Proofs.Run.Follows
import Acme.Proofs.Run.Machine
import Acme.Proofs.Run.Success

/-!
# The phases of a run

Every part of a run takes the machine along a trail (`Leads`), so the phases of a whole run are those
of a path of the machine, and the guards allow each correction once (`run_journey`).
-/

namespace Acme.Run

variable {config : Config} {client : Client} {n : Nat} {isNew : Bool} {α β : Type}

/-! ## Parts of a run -/

/-- Deeds lead the machine to these guards, and to this place unless the part of the run fails. If
the machine halts with an exit code, the failure has that code. -/
def Leads (client : Client) (n : Nat) (isNew : Bool) (σ : Station) (ds : List Deed)
    (r : Except Failure α) (g : Guards) (p : Place) : Prop :=
  ∃ τ halt, Trail client n isNew σ ds τ halt ∧ τ.guards = g
    ∧ (∀ code, halt = some code → ∃ f, r = .error f ∧ f.exitCode = code)
    ∧ (∀ x, r = .ok x → τ.place = p) ∧ (∀ f, r = .error f → τ.place ≠ .done)

section
variable {σ τ : Station} {ds es : List Deed} {r : Except Failure α} {g g' : Guards} {p q : Place}

theorem Trail.leads_ok (h : Trail client n isNew σ ds ⟨p, g⟩ none) (x : α) :
    Leads client n isNew σ ds (.ok x) g p :=
  ⟨_, none, h, rfl, fun _ h => (by cases h), fun _ _ => rfl, fun _ h => (by cases h)⟩

theorem Trail.leads_error {halt : Option Nat} {f : Failure}
    (h : Trail client n isNew σ ds ⟨q, g⟩ halt) (hq : q ≠ .done)
    (hf : ∀ code, halt = some code → f.exitCode = code) :
    Leads client n isNew σ ds (.error f : Except Failure α) g p :=
  ⟨_, halt, h, rfl, fun code hc => ⟨f, rfl, hf code hc⟩, fun _ h => (by cases h), fun _ _ => hq⟩

theorem Leads.trail {x : α} (h : Leads client n isNew σ ds (.ok x) g p) :
    Trail client n isNew σ ds ⟨p, g⟩ none := by
  obtain ⟨⟨q, g⟩, halt, ht, rfl, hhalt, hp, _⟩ := h
  cases hp x rfl
  cases halt with
  | none => exact ht
  | some code =>
    obtain ⟨f, hf, _⟩ := hhalt code rfl
    cases hf

theorem Trail.append_leads (h : Trail client n isNew σ ds τ none)
    (h' : Leads client n isNew τ es r g p) : Leads client n isNew σ (ds ++ es) r g p := by
  obtain ⟨υ, halt, ht, hg, hhalt, hp, hd⟩ := h'
  exact ⟨υ, halt, h.append ht, hg, hhalt, hp, hd⟩

theorem Leads.append {x : β} (h : Leads client n isNew σ ds (.ok x) g p)
    (h' : Leads client n isNew ⟨p, g⟩ es r g' q) : Leads client n isNew σ (ds ++ es) r g' q :=
  h.trail.append_leads h'

theorem Leads.restart {t : Turn} {b : Bool} (hc : CertificateRefused client t)
    (h : Leads client n isNew ⟨.authStart, ⟨b, true⟩⟩ ds r g p) :
    Leads client n isNew ⟨.certRequest, ⟨b, false⟩⟩ (.asked t :: entering .authStart :: ds) r g p := by
  obtain ⟨υ, halt, ht, hg, hhalt, hp, hd⟩ := h
  exact ⟨υ, halt, .restart hc rfl ht, hg, hhalt, hp, hd⟩

theorem Leads.failed {f : Failure} (h : Leads client n isNew σ ds (.error f : Except Failure β) g p) :
    Leads client n isNew σ ds (.error f : Except Failure α) g q := by
  obtain ⟨τ, halt, ht, hg, hhalt, _, hd⟩ := h
  refine ⟨τ, halt, ht, hg, ?_, fun _ h => (by cases h), fun _ _ => hd f rfl⟩
  intro code hc
  obtain ⟨f', hf, hcode⟩ := hhalt code hc
  cases hf
  exact ⟨f, rfl, hcode⟩

end

/-! ## Parts without phases -/

/-- No phase is entered, and nothing is asked that may be refused. -/
def Quiet (ds : List Deed) : Prop :=
  ∀ deed ∈ ds, match deed with
    | .asked t => isRefusable t.ask = false
    | .other event => event.phase? = none

namespace Quiet

variable {ds es : List Deed}

theorem nil : Quiet [] := fun _ h => absurd h List.not_mem_nil

theorem append (h : Quiet ds) (h' : Quiet es) : Quiet (ds ++ es) := by
  intro deed hmem
  rcases List.mem_append.1 hmem with hmem | hmem
  · exact h deed hmem
  · exact h' deed hmem

theorem other {event : Event} (he : event.phase? = none) (h : Quiet ds) :
    Quiet (.other event :: ds) := by
  intro deed hmem
  rcases List.mem_cons.1 hmem with rfl | hmem
  · exact he
  · exact h deed hmem

theorem asked {t : Turn} (ht : isRefusable t.ask = false) (h : Quiet ds) :
    Quiet (.asked t :: ds) := by
  intro deed hmem
  rcases List.mem_cons.1 hmem with rfl | hmem
  · exact ht
  · exact h deed hmem

theorem trail (h : Quiet ds) (σ : Station) : Trail client n isNew σ ds σ none := by
  induction ds with
  | nil => exact .nil σ
  | cons deed ds ih =>
    have hrest := ih fun deed hmem => h deed (List.mem_cons_of_mem _ hmem)
    have hdeed := h deed List.mem_cons_self
    cases deed with
    | asked t =>
      have hnot : ¬ isRefusable t.ask = true := by
        rw [show isRefusable t.ask = false from hdeed]
        exact Bool.noConfusion
      exact .asked (fun ha => absurd ha.isRefusable hnot) (fun hc => hnot hc.isRefusable) hrest
    | other event => exact .other hdeed hrest

theorem leads (h : Quiet ds) {p : Place} (hp : p ≠ .done) (g : Guards) (r : Except Failure α) :
    Leads client n isNew ⟨p, g⟩ ds r g p := by
  cases r with
  | ok x => exact (h.trail _).leads_ok x
  | error f => exact (h.trail _).leads_error hp fun _ hc => (by cases hc)

end Quiet

theorem Polling.quiet {policy : PollPolicy} {challenge : PendingChallenge} {remaining : Nat}
    {ds : List Deed} {r : Except Failure Unit} (h : Polling policy challenge remaining ds r) :
    Quiet ds := by
  induction h with
  | spent => exact .nil
  | valid ht => exact .asked (by rw [ht]; rfl) .nil
  | failed ht => exact .asked (by rw [ht]; rfl) .nil
  | @pending remaining _ _ _ ht _ _ ih =>
    refine .asked (by rw [ht]; rfl) (.append ?_ ih)
    rw [pause]
    split
    · exact .other rfl .nil
    · exact .nil

theorem Completing.quiet {c : PendingChallenge} {ds : List Deed} {r : Except Failure Unit}
    (h : Completing config client c ds r) : Quiet ds := by
  cases h with
  | deaf => exact .nil
  | @served start ds _ hs hd =>
    have hstart : Quiet start := by
      rcases hs with rfl | rfl
      · exact .nil
      · exact .other rfl .nil
    have hdeciding : Quiet ds := by
      cases hd with
      | unactivated ht => exact .asked (by rw [ht]; rfl) .nil
      | polled ht _ hp => exact .asked (by rw [ht]; rfl) (.other rfl hp.quiet)
    exact hstart.append (.other rfl (hdeciding.append (.other rfl .nil)))

theorem Changing.quiet {steps : List FileStep} {ds : List Deed} {fault : Option SystemFault}
    (h : Changing steps ds fault) : Quiet ds := by
  induction h with
  | nil => exact .nil
  | stopped => exact .other rfl .nil
  | cons _ ih => exact .other rfl ih

theorem Writing.quiet {certKey : String} {c : IssuedCertificate} {ds : List Deed}
    {r : Except Failure Unit} (h : Writing config certKey c ds r) : Quiet ds := by
  cases h with
  | keyless hk => exact hk.quiet
  | leafless hk hc => exact hk.quiet.append hc.quiet
  | written hk hc => exact hk.quiet.append hc.quiet

theorem Fetching.quiet {url : String} {ds : List Deed} {r : Except Failure Unit}
    (h : Fetching config url ds r) : Quiet ds := by
  cases h with
  | unfetched ht => exact .asked (by rw [ht]; rfl) .nil
  | unwritten ht _ hi => exact .asked (by rw [ht]; rfl) hi.quiet
  | written ht _ hi => exact .asked (by rw [ht]; rfl) hi.quiet

theorem Keeping.quiet {keys : KeySupply} {present : Bool} {ds : List Deed}
    {r : Except Failure (Account × Bool)} (h : Keeping config keys present ds r) : Quiet ds := by
  cases h with
  | unsaved _ _ hs => exact hs.quiet
  | unusable _ _ hs => exact hs.quiet
  | saved _ _ hs => exact hs.quiet
  | _ => exact .nil

/-! ## Authorizing -/

theorem Registering.leads {ds : List Deed} {r : Except Failure Unit} {p q : Place} {g : Guards}
    (h : Registering config client ds r) (e : Edge n isNew p q) (hq : q.phase = .register)
    (hg : g.registered = false) :
    Leads client n isNew ⟨p, g⟩ ds r { g with registered := true } q := by
  have hne : q ≠ .done := by
    rintro rfl
    cases hq
  have henter : Trail client n isNew ⟨p, g⟩ [entering .register]
      ⟨q, { g with registered := true }⟩ none := by
    rw [← hq]
    exact .enter (.register e hq hg) (.nil _)
  cases h with
  | homeless => exact henter.append_leads (Quiet.nil.leads hne _ _)
  | asked _ ht => exact henter.append_leads (Quiet.leads (.asked (by rw [ht]; rfl) .nil) hne _ _)

theorem enters {p q : Place} {g : Guards} (e : Edge n isNew p q) (hq : q.phase ≠ .register)
    (hp : p = .certRequest → q ≠ .authStart) :
    Trail client n isNew ⟨p, g⟩ [entering q.phase] ⟨q, g⟩ none :=
  .enter (.free e hq hp) (.nil _)

/-- An authorization is asked for; it may be refused if the account can still be registered. -/
theorem asks_authorization {t : Turn} {domain : String} (ht : t.ask = client.authorizationAsk domain)
    {σ : Station}
    (h : ∀ problem, t.authorization domain = .ok (.unauthorized problem) →
      σ.guards.registered = false) :
    Trail client n isNew σ [.asked t] σ none := by
  refine .asked (fun ha => ?_) (not_certificateRefused ht) (.nil σ)
  obtain ⟨problem, hp⟩ := (authorizationRefused_iff ht).1 ha
  exact h problem hp

/-- An authorization is asked for once more after registration. -/
theorem asks_again {t : Turn} {domain : String} (ht : t.ask = client.authorizationAsk domain)
    (i : Nat) (a : Bool) :
    Leads client n isNew ⟨.challenge i, ⟨true, a⟩⟩ [.asked t]
      ((t.authorization domain).bind (offered domain)) ⟨true, a⟩ (.challenge i) := by
  have hne : Place.challenge i ≠ .done := Place.noConfusion
  cases hr : t.authorization domain with
  | error f =>
    refine (asks_authorization ht fun problem hp => ?_).leads_error hne fun _ hc => (by cases hc)
    rw [hr] at hp
    cases hp
  | ok reply =>
    cases reply with
    | challenge c =>
      refine (asks_authorization ht fun problem hp => ?_).leads_ok c
      rw [hr] at hp
      cases hp
    | unauthorized problem =>
      have hrefused := (authorizationRefused_iff ht).2 ⟨problem, hr⟩
      refine (Trail.refused hrefused rfl).leads_error hne fun code hc => ?_
      cases hc
      rfl

theorem Obtaining.leads {i : Nat} {domain : String} {ds : List Deed}
    {r : Except Failure PendingChallenge} {b b' : Bool} {p : Place} {a : Bool}
    (h : Obtaining config client i domain b ds r b') (e : Edge n isNew p (.challenge i)) :
    Leads client n isNew ⟨p, ⟨b, a⟩⟩ ds r ⟨b', a⟩ (.challenge i) := by
  have henter {p : Place} (e : Edge n isNew p (.challenge i)) (g : Guards) :
      Trail client n isNew ⟨p, g⟩ [entering (.challenge i)] ⟨.challenge i, g⟩ none :=
    enters e Phase.noConfusion fun _ => Place.noConfusion
  have hne : Place.challenge i ≠ .done := Place.noConfusion
  cases h with
  | failed ht hf =>
    have hask : Trail client n isNew ⟨.challenge i, ⟨b, a⟩⟩ _ _ none :=
      asks_authorization ht fun problem hp => by
        rw [hf] at hp
        cases hp
    exact ((henter e _).append hask).leads_error hne fun _ hc => (by cases hc)
  | offered ht hc =>
    have hask : Trail client n isNew ⟨.challenge i, ⟨b, a⟩⟩ _ _ none :=
      asks_authorization ht fun problem hp => by
        rw [hc] at hp
        cases hp
    exact ((henter e _).append hask).leads_ok _
  | refused ht hp =>
    have hask : Trail client n isNew ⟨.challenge i, ⟨true, a⟩⟩ _ _ (some 6) :=
      .refused ((authorizationRefused_iff ht).2 ⟨_, hp⟩) rfl
    refine ((henter e _).append hask).leads_error hne fun code hc => ?_
    cases hc
    rfl
  | unregistered ht hp hr =>
    have hask : Trail client n isNew ⟨.challenge i, ⟨false, a⟩⟩ _ _ none :=
      asks_authorization ht fun _ _ => rfl
    exact ((henter e _).append hask).append_leads (hr.leads .correct rfl rfl).failed
  | @registered t t' problem ds ht hp hr ht' =>
    have hask : Trail client n isNew ⟨.challenge i, ⟨false, a⟩⟩ _ _ none :=
      asks_authorization ht fun _ _ => rfl
    have hcorrect : Edge n isNew (.challenge i) (.correction i) := .correct
    have hregistered := hr.leads (g := ⟨false, a⟩) hcorrect rfl rfl
    exact ((henter e _).append hask).append_leads
      (hregistered.append ((henter .corrected _).append_leads (asks_again ht' i a)))

theorem Passing.leads {i : Nat} {domain : String} {ds : List Deed} {r : Except Failure Unit}
    {b b' : Bool} {p : Place} {a : Bool} (h : Passing config client i domain b ds r b')
    (e : Edge n isNew p (.challenge i)) :
    Leads client n isNew ⟨p, ⟨b, a⟩⟩ ds r ⟨b', a⟩ (.challenge i) := by
  cases h with
  | unobtained ho => exact (ho.leads e).failed
  | obtained ho hc => exact (ho.leads e).append (hc.quiet.leads Place.noConfusion _ _)

/-- The domains are passed one after the other; the last one leaves the machine at its place. -/
theorem Authorizing.leads {i : Nat} {domains : List String} {ds : List Deed}
    {r : Except Failure Unit} {b b' : Bool} {p : Place} {a : Bool}
    (h : Authorizing config client i domains b ds r b') (hn : i + domains.length = n)
    (hne : domains ≠ []) (e : Edge n isNew p (.challenge i)) :
    Leads client n isNew ⟨p, ⟨b, a⟩⟩ ds r ⟨b', a⟩ (.challenge (n - 1)) := by
  induction h generalizing p with
  | nil => exact absurd rfl hne
  | stopped hp => exact (hp.leads e).failed
  | @cons i domain rest _ _ _ _ _ _ hp hr ih =>
    cases rest with
    | nil =>
      cases hr
      have hi : i = n - 1 := by
        rw [List.length_singleton] at hn
        omega
      rw [List.append_nil, ← hi]
      exact hp.leads e
    | cons next rest =>
      rw [List.length_cons] at hn
      have hnext : i + 1 < n := by
        rw [List.length_cons] at hn
        omega
      exact (hp.leads e).append (ih (by omega) (List.cons_ne_nil _ _) (.next hnext))

/-! ## The certificate -/

/-- A pass over the domains ends with a refused certificate, or in another way. -/
theorem Requesting.leads {certKey : String} {ds : List Deed} {r : Except Failure CertificateReply}
    {b b' : Bool} (h : Requesting config client certKey b ds r b') (isNew a : Bool)
    (hn : config.domains.length = n) (hne : config.domains ≠ []) :
    ∃ es, ds = entering .authStart :: es ∧
      ((∃ front t problem, es = front ++ [.asked t] ∧ r = .ok (.unauthorized problem)
          ∧ CertificateRefused client t
          ∧ Trail client n isNew ⟨.authStart, ⟨b, a⟩⟩ front ⟨.certRequest, ⟨b', a⟩⟩ none)
        ∨ (∀ problem, r ≠ .ok (.unauthorized problem))
          ∧ Leads client n isNew ⟨.authStart, ⟨b, a⟩⟩ es r ⟨b', a⟩ .certRequest) := by
  have hpos : 0 < config.domains.length := List.length_pos_iff.2 hne
  have hlast : Edge n isNew (.challenge (n - 1)) .certRequest := .last (by omega)
  have hauthorize {ds : List Deed} {r : Except Failure Unit}
      (h : Authorizing config client 0 config.domains b ds r b') :
      Leads client n isNew ⟨.authStart, ⟨b, a⟩⟩ ds r ⟨b', a⟩ (.challenge (n - 1)) :=
    h.leads (by rw [Nat.zero_add, hn]) hne .first
  have henter : Trail client n isNew ⟨.challenge (n - 1), ⟨b', a⟩⟩ [entering .certRequest]
      ⟨.certRequest, ⟨b', a⟩⟩ none :=
    enters hlast Phase.noConfusion fun h => Place.noConfusion h
  cases h with
  | unauthorized ha =>
    exact ⟨_, rfl, .inr ⟨fun _ h => (by cases h), (hauthorize ha).failed⟩⟩
  | unrequested ha he =>
    refine ⟨_, rfl, .inr ⟨fun _ h => (by cases h), ?_⟩⟩
    exact ((hauthorize ha).trail.append henter).leads_error Place.noConfusion
      fun _ h => (by cases h)
  | requested ha hr ht =>
    rename_i ds request t
    have hfront := (hauthorize ha).trail.append henter
    have hsplit : ds ++ [entering .certRequest, .asked t]
        = (ds ++ [entering .certRequest]) ++ [.asked t] := by
      rw [List.append_assoc]
      rfl
    refine ⟨_, rfl, ?_⟩
    rw [hsplit]
    -- A refusal is left to the caller, who knows whether the restart is spent.
    by_cases hrefused : CertificateRefused client t
    · obtain ⟨problem, hp⟩ := (certificateRefused_iff ht).1 hrefused
      exact .inl ⟨_, t, problem, rfl, hp, hrefused, hfront⟩
    · have hask : Trail client n isNew ⟨.certRequest, ⟨b', a⟩⟩ [.asked t] ⟨.certRequest, ⟨b', a⟩⟩ none :=
        .asked (fun ha => absurd ha (not_authorizationRefused ht)) hrefused (.nil _)
      refine .inr ⟨fun problem hp => hrefused ((certificateRefused_iff ht).2 ⟨problem, hp⟩), ?_⟩
      cases t.certificate client.endpoints.newCert with
      | ok reply => exact (hfront.append hask).leads_ok reply
      | error f =>
        exact (hfront.append hask).leads_error Place.noConfusion fun _ h => (by cases h)

/-- A second pass, for which the second guard is set, brings the certificate or is the end. -/
theorem Requesting.leads_again {certKey : String} {ds : List Deed}
    {r : Except Failure CertificateReply} {b b' : Bool}
    (h : Requesting config client certKey b ds r b') (isNew : Bool)
    (hn : config.domains.length = n) (hne : config.domains ≠ []) :
    ∃ es, ds = entering .authStart :: es
      ∧ Leads client n isNew ⟨.authStart, ⟨b, true⟩⟩ es (r.bind issuedAtLast) ⟨b', true⟩
        .certRequest := by
  obtain ⟨es, rfl, hcases⟩ := h.leads isNew true hn hne
  refine ⟨es, rfl, ?_⟩
  rcases hcases with ⟨front, t, problem, rfl, rfl, hrefused, hfront⟩ | ⟨hissued, hl⟩
  · refine (hfront.append (.barred hrefused rfl)).leads_error Place.noConfusion fun code hc => ?_
    cases hc
    rfl
  · cases r with
    | error f => exact hl.failed
    | ok reply =>
      cases reply with
      | issued c => exact hl.trail.leads_ok c
      | unauthorized problem => exact absurd rfl (hissued problem)

theorem Issuing.leads {certKey : String} {ds : List Deed} {r : Except Failure IssuedCertificate}
    {b : Bool} {g : Guards} (h : Issuing config client certKey ⟨b, false⟩ ds r g)
    (hn : config.domains.length = n) (hne : config.domains ≠ []) {p : Place}
    (e : Edge n isNew p .authStart) (hp : p ≠ .certRequest) :
    Leads client n isNew ⟨p, ⟨b, false⟩⟩ ds r g .certRequest := by
  have henter : Trail client n isNew ⟨p, ⟨b, false⟩⟩ [entering .authStart]
      ⟨.authStart, ⟨b, false⟩⟩ none :=
    enters e Phase.noConfusion fun h => absurd h hp
  cases h with
  | failed hr =>
    obtain ⟨es, rfl, hcases⟩ := hr.leads isNew false hn hne
    rcases hcases with ⟨_, _, _, _, h, _⟩ | ⟨_, hl⟩
    · cases h
    · exact henter.append_leads hl.failed
  | issued hr =>
    obtain ⟨es, rfl, hcases⟩ := hr.leads isNew false hn hne
    rcases hcases with ⟨_, _, _, _, h, _⟩ | ⟨_, hl⟩
    · cases h
    · exact (henter.append hl.trail).leads_ok _
  | twice hr hr' =>
    obtain ⟨_, rfl, hcases⟩ := hr.leads isNew false hn hne
    obtain ⟨fs, rfl, hagain⟩ := hr'.leads_again isNew hn hne
    rcases hcases with ⟨front, t, _, rfl, _, hrefused, hfront⟩ | ⟨h, _⟩
    · have hfirst := henter.append hfront
      rw [List.cons_append, List.append_assoc]
      exact hfirst.append_leads (hagain.restart hrefused)
    · exact absurd rfl (h _)

/-! ## The run -/

theorem Opening.leads {ds : List Deed} {r : Except Failure Unit} {b : Bool}
    (h : Opening config client isNew false ds r b) :
    ∃ p, Edge n isNew p .authStart ∧ p ≠ .certRequest
      ∧ Leads client n isNew ⟨.init, {}⟩ ds r ⟨b, false⟩ p := by
  have henter : Trail client n isNew ⟨.init, {}⟩ [entering .nonce] ⟨.nonce, {}⟩ none :=
    enters .nonce Phase.noConfusion fun h => Place.noConfusion h
  have hask {t : Turn} (ht : t.ask = .nonce) :
      Trail client n isNew ⟨.nonce, {}⟩ [.asked t] ⟨.nonce, {}⟩ none :=
    Quiet.trail (.asked (by rw [ht]; rfl) .nil) _
  cases h with
  | nonceless ht =>
    exact ⟨.enrolment, .enrolled, Place.noConfusion,
      (henter.append (hask ht)).leads_error Place.noConfusion fun _ h => (by cases h)⟩
  | known ht hn => exact ⟨.nonce, .skip hn, Place.noConfusion, (henter.append (hask ht)).leads_ok _⟩
  | registering ht hn hr =>
    exact ⟨.enrolment, .enrolled, Place.noConfusion,
      (henter.append (hask ht)).append_leads (hr.leads (.enrol hn) rfl rfl)⟩

theorem Delivering.leads {certKey : String} {c : IssuedCertificate} {ds : List Deed}
    {r : Except Failure IssuedFiles} (h : Delivering config certKey c ds r) (g : Guards) :
    Leads client n isNew ⟨.certRequest, g⟩ ds r g .done := by
  have henter : Trail client n isNew ⟨.certRequest, g⟩ [entering .intermediateFetch]
      ⟨.intermediateFetch, g⟩ none :=
    enters .issued Phase.noConfusion fun _ => Place.noConfusion
  have hfinish : Trail client n isNew ⟨.intermediateFetch, g⟩ [entering .done] ⟨.done, g⟩ none :=
    enters .finish Phase.noConfusion fun h => Place.noConfusion h
  cases h with
  | unwritten hw =>
    exact (hw.quiet.trail _).leads_error Place.noConfusion fun _ h => (by cases h)
  | unfetched hw hf =>
    have hfetch := henter.append (hf.quiet.trail ⟨.intermediateFetch, g⟩)
    exact ((hw.quiet.trail _).append hfetch).leads_error Place.noConfusion fun _ h => (by cases h)
  | delivered hw hf =>
    have hfetch := henter.append ((hf.quiet.trail ⟨.intermediateFetch, g⟩).append hfinish)
    exact ((hw.quiet.trail _).append hfetch).leads_ok _

theorem Proceeding.leads {certKey : String} {ds : List Deed} {r : Except Failure IssuedFiles}
    {g : Guards} (h : Proceeding config client isNew certKey {} ds r g)
    (hn : config.domains.length = n) (hne : config.domains ≠ []) :
    Leads client n isNew ⟨.init, {}⟩ ds r g .done := by
  cases h with
  | unopened ho =>
    obtain ⟨p, _, _, hl⟩ := ho.leads (n := n)
    exact hl.failed
  | unissued ho hi =>
    obtain ⟨p, he, hp, hl⟩ := ho.leads (n := n)
    exact hl.append (hi.leads hn hne he hp).failed
  | issued ho hi hd =>
    obtain ⟨p, he, hp, hl⟩ := ho.leads (n := n)
    exact (hl.append (hi.leads hn hne he hp)).append (hd.leads _)

theorem Running.leads {keys : KeySupply} {present : Bool} {account : Account} {ds : List Deed}
    {r : Except Failure IssuedFiles} {g : Guards}
    (h : Running config keys present account ds r g) (hne : config.domains ≠ []) :
    ∃ es, ds = entering .init :: es
      ∧ Leads ⟨config.endpoints, account⟩ config.domains.length (!present) ⟨.init, {}⟩ es r g
        .done := by
  cases h with
  | unkept hk =>
    exact ⟨_, rfl, (hk.quiet.trail _).leads_error Place.noConfusion fun _ h => (by cases h)⟩
  | unkeyed hk _ =>
    exact ⟨_, rfl, (hk.quiet.trail _).leads_error Place.noConfusion fun _ h => (by cases h)⟩
  | proceeding hk _ hp =>
    refine ⟨_, rfl, (hk.quiet.trail _).append_leads ?_⟩
    rw [← hk.isNew_eq]
    exact hp.leads rfl hne

theorem split_init {es before after : List Deed} {t : Turn}
    (h : entering .init :: es = before ++ .asked t :: after) :
    ∃ before', before = entering .init :: before' ∧ es = before' ++ .asked t :: after := by
  cases before with
  | nil => cases h
  | cons deed before =>
    cases h
    exact ⟨before, rfl, rfl⟩

/-- How the phases of a run, its guards and its result go together. -/
structure Journey (config : Config) (keys : KeySupply) (s : Session) (account : Account)
    (deeds : List Deed) (places : List Place) : Prop where
  phases : (s.after (run config keys)).phases = s.phases ++ places.map Place.phase
  path : IsPath config.domains.length (!s.files.exists? config.accountKey) places
  maximal : (∃ files, s.outcome (run config keys) = .ok files)
    ↔ IsMaximal config.domains.length (!s.files.exists? config.accountKey) places
  done : (∃ files, s.outcome (run config keys) = .ok files)
    ↔ (s.after (run config keys)).phase = .done
  register_count : (places.map Place.phase).count .register ≤ 1
  authStart_count : (places.map Place.phase).count .authStart ≤ 2
  registered : (s.after (run config keys)).guards.registered = true
    ↔ .register ∈ places.map Place.phase
  authorized : (s.after (run config keys)).guards.authorized = true
    ↔ ∃ t ∈ turnsOf deeds, CertificateRefused ⟨config.endpoints, account⟩ t
  restarted : (s.after (run config keys)).guards.authorized = true
    ↔ (places.map Place.phase).count .authStart = 2
  /-- Once registration was attempted, an unauthorized reply for a domain is the end. -/
  authorization_refused : ∀ before t after, deeds = before ++ .asked t :: after →
    .register ∈ phasesOf before → AuthorizationRefused ⟨config.endpoints, account⟩ t →
      after = [] ∧ ∃ f, s.outcome (run config keys) = .error f ∧ f.exitCode = 6
  /-- Once the restart is spent, an unauthorized reply for the certificate is the end. -/
  certificate_refused : ∀ before t after, deeds = before ++ .asked t :: after →
    (∃ t' ∈ turnsOf before, CertificateRefused ⟨config.endpoints, account⟩ t') →
      CertificateRefused ⟨config.endpoints, account⟩ t →
        after = [] ∧ ∃ f, s.outcome (run config keys) = .error f ∧ f.exitCode = 9

/-- The phases of every run are those of a path of the machine, which is maximal if and only if the
run succeeds. -/
theorem run_journey (config : Config) (keys : KeySupply) (s : Session) (hne : config.domains ≠ []) :
    ∃ account deeds places, Told config keys s account deeds
      ∧ Journey config keys s account deeds places := by
  obtain ⟨account, deeds, htold⟩ := run_follows config keys s
  obtain ⟨es, rfl, τ, halt, htrail, hg, hhalt, hok, herror⟩ := htold.running.leads hne
  obtain ⟨places, hphases, hchain, hlast⟩ := htrail.path
  have hpath : IsPath config.domains.length (!s.files.exists? config.accountKey)
      (.init :: places) := ⟨rfl, hchain⟩
  have hall : phasesOf (entering .init :: es) = (Place.init :: places).map Place.phase := by
    rw [phasesOf_entered, hphases]
    rfl
  have hfinal : (∃ files, s.outcome (run config keys) = .ok files) ↔ τ.place = .done := by
    constructor
    · rintro ⟨files, hf⟩
      exact hok files hf
    · intro hd
      cases ho : s.outcome (run config keys) with
      | ok files => exact ⟨files, rfl⟩
      | error f => exact absurd hd (herror f ho)
  have hphase : (s.after (run config keys)).phase = τ.place.phase := by
    rw [htold.happened.phase, hall, List.getLast?_map, hlast]
    rfl
  refine ⟨account, _, .init :: places, htold, ?_⟩
  constructor
  case phases => rw [htold.happened.phases, hall]; rfl
  case path => exact hpath
  case maximal => rw [hfinal, isMaximal_iff hpath hlast]
  case done => rw [hfinal, hphase, Place.phase_eq_done]
  case register_count =>
    rw [← hall, phasesOf_entered, List.count_cons_of_ne Phase.noConfusion]
    exact (Nat.le_add_right _ _).trans (htrail.count_register.le.trans (Bool.toNat_le _))
  case authStart_count =>
    rw [← hall, phasesOf_entered, List.count_cons_of_ne Phase.noConfusion]
    exact (Nat.le_add_right _ _).trans
      (htrail.count_authStart.le.trans (Nat.add_le_add (Bool.toNat_le _) (Bool.toNat_le _)))
  case registered =>
    rw [← hall, phasesOf_entered, ← hg, htrail.registered_iff, List.mem_cons]
    exact (or_iff_right Phase.noConfusion).symm
  case authorized =>
    rw [← hg, htrail.authorized_iff]
    exact or_iff_right Bool.false_ne_true
  case restarted =>
    rw [← hall, phasesOf_entered, List.count_cons_of_ne Phase.noConfusion, ← hg]
    exact htrail.restarted_iff
  case authorization_refused =>
    intro before t after hds hr ha
    obtain ⟨before, rfl, rfl⟩ := split_init hds
    rw [phasesOf_entered, List.mem_cons] at hr
    obtain ⟨rfl, hcode⟩ := htrail.halt_of_authorizationRefused
      (hr.resolve_left Phase.noConfusion) ha
    exact ⟨rfl, hhalt 6 hcode⟩
  case certificate_refused =>
    intro before t after hds hr hc
    obtain ⟨before, rfl, rfl⟩ := split_init hds
    obtain ⟨rfl, hcode⟩ := htrail.halt_of_certificateRefused hr hc
    exact ⟨rfl, hhalt 9 hcode⟩

/-- All phases are passed through, and the account is registered on the way. -/
theorem run_journey_twoDomains :
    twoDomains.domains ≠ []
      ∧ (obliging []).outcome (run twoDomains prothKeys) = .ok (files twoDomains)
      ∧ ∃ account deeds places, Told twoDomains prothKeys (obliging []) account deeds
        ∧ Journey twoDomains prothKeys (obliging []) account deeds places :=
  ⟨by decide, run_twoDomains_succeeds [], run_journey _ _ _ (by decide)⟩

end Acme.Run
