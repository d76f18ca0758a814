import Acme.Proofs.Authorization
import Acme.Proofs.Run.Follows
import Acme.Proofs.Run.Language
import Acme.Proofs.Run.Scene
import Acme.Proofs.Run.Success

/-!
# When a challenge can be found

A run serves the key authorization of one token while the challenge is activated and polled, and
nothing while anything else is asked for (`run_exposes`). The parts of a run begin and end with
nothing served (`Shut`).
-/

namespace Acme

/-! ## Tokens that are offered -/

theorem Turn.isToken_of_authorization {t : Turn} {domain : String} {c : PendingChallenge}
    (h : t.authorization domain = .ok (.challenge c)) : isToken c.token = true := by
  rw [authorization] at h
  cases hr : t.result with
  | error e =>
    rw [hr] at h
    cases h
  | ok reply =>
    rw [hr] at h
    dsimp only at h
    cases ho : AuthorizationReply.ofReply domain reply with
    | error e =>
      rw [ho] at h
      cases h
    | ok r =>
      rw [ho] at h
      cases h
      exact (ofReply_eq_challenge_iff.1 ho).isToken

namespace Run

open Session

/-! ## Windows -/

variable {config : Config} {client : Client}

/-- The challenge that was offered for a domain in the latest reply is served, and nothing else. -/
structure Serving (config : Config) (client : Client) (c : PendingChallenge) (σ : Scene) :
    Prop where
  registry : σ.registry = [(c.token, client.account.keyAuthorization c.token)]
  offered : ∃ i domain u, σ.phase = .challenge i ∧ config.domains[i]? = some domain
    ∧ σ.latest = some u ∧ u.ask = client.authorizationAsk domain
    ∧ u.authorization domain = .ok (.challenge c)

/-- A challenge is served while it is activated and polled, and nothing otherwise. -/
inductive Admits (config : Config) (client : Client) (σ : Scene) (t : Turn) : Prop
  | closed (h : t.ask.isValidation σ.phase = false) (hr : σ.registry = [])
  | opened {c : PendingChallenge} (hs : Serving config client c σ)
    (h : t.ask = client.activationAsk c ∨ t.ask = .plain c.uri)

variable (config client) in
/-- The deeds begin and end with nothing served. -/
def Shut (ds : List Deed) : Prop :=
  ∀ σ : Scene, σ.registry = [] → ∃ τ, Seen (Admits config client) σ ds τ ∧ τ.registry = []

namespace Shut

variable {ds es : List Deed}

theorem nil : Shut config client [] :=
  fun σ h => ⟨σ, .nil σ, h⟩

theorem append (h : Shut config client ds) (h' : Shut config client es) :
    Shut config client (ds ++ es) := by
  intro σ hσ
  obtain ⟨τ, hseen, hτ⟩ := h σ hσ
  obtain ⟨υ, hseen', hυ⟩ := h' τ hτ
  exact ⟨υ, hseen.append hseen', hυ⟩

/-- An event that registers nothing may come before. -/
theorem other {event : Event}
    (he : ∀ σ : Scene, σ.registry = [] → (σ.next (.other event)).registry = [])
    (h : Shut config client ds) : Shut config client (.other event :: ds) := by
  intro σ hσ
  obtain ⟨τ, hseen, hτ⟩ := h _ (he σ hσ)
  exact ⟨τ, .other hseen, hτ⟩

theorem entering (phase : Phase) (h : Shut config client ds) :
    Shut config client (Run.entering phase :: ds) :=
  h.other fun _ hσ => hσ

/-- A turn that validates nothing in any phase may come before. -/
theorem asked {t : Turn} (ht : ∀ phase, t.ask.isValidation phase = false)
    (h : Shut config client ds) : Shut config client (.asked t :: ds) := by
  intro σ hσ
  have hnext : (σ.next (.asked t)).registry = [] := by
    rw [Scene.next]
    split
    · exact hσ
    · exact hσ
  obtain ⟨τ, hseen, hτ⟩ := h _ hnext
  exact ⟨τ, .asked (.closed (ht σ.phase) hσ) hseen, hτ⟩

end Shut

/-! ## Authorizing -/

theorem Registering.shut {ds : List Deed} {r : Except Failure Unit}
    (h : Registering config client ds r) : Shut config client ds := by
  cases h with
  | homeless => exact .entering _ .nil
  | asked _ ht =>
    refine .entering _ (.asked ?_ .nil)
    intro phase
    rw [ht]
    rfl

theorem isValidation_authorizationAsk {t : Turn} {domain : String}
    (ht : t.ask = client.authorizationAsk domain) (phase : Phase) :
    t.ask.isValidation phase = false := by
  rw [ht]
  rfl

theorem next_of_authorizationAsk {t : Turn} {domain : String}
    (ht : t.ask = client.authorizationAsk domain) (σ : Scene) :
    σ.next (.asked t) = { σ with latest := some t } := by
  rw [Scene.next, ht]
  rfl

theorem Obtaining.shut {i : Nat} {domain : String} {ds : List Deed}
    {r : Except Failure PendingChallenge} {b b' : Bool}
    (h : Obtaining config client i domain b ds r b') : Shut config client ds := by
  have hask {t : Turn} (ht : t.ask = client.authorizationAsk domain) :
      Shut config client [entering (.challenge i), .asked t] :=
    .entering _ (.asked (isValidation_authorizationAsk ht) .nil)
  cases h with
  | failed ht => exact hask ht
  | offered ht => exact hask ht
  | refused ht => exact hask ht
  | unregistered ht _ hr => exact (hask ht).append hr.shut
  | registered ht _ hr ht' => exact (hask ht).append (hr.shut.append (hask ht'))

/-- The last deed before a challenge is completed is the request in whose reply it was offered. -/
theorem Obtaining.offers_at {i : Nat} {domain : String} {ds : List Deed} {c : PendingChallenge}
    {b b' : Bool} (h : Obtaining config client i domain b ds (.ok c) b') (σ : Scene) :
    (ds.foldl Scene.next σ).phase = .challenge i ∧ ∃ u, (ds.foldl Scene.next σ).latest = some u
      ∧ u.ask = client.authorizationAsk domain ∧ u.authorization domain = .ok (.challenge c) := by
  have hlast {t : Turn} (ht : t.ask = client.authorizationAsk domain)
      (hc : t.authorization domain = .ok (.challenge c)) (before : List Deed) :
      ((before ++ [entering (.challenge i), .asked t]).foldl Scene.next σ).phase = .challenge i
        ∧ ∃ u, ((before ++ [entering (.challenge i), .asked t]).foldl Scene.next σ).latest = some u
          ∧ u.ask = client.authorizationAsk domain
          ∧ u.authorization domain = .ok (.challenge c) := by
    rw [List.foldl_append]
    show ((Scene.next _ (entering (.challenge i))).next (.asked t)).phase = _ ∧ ∃ u,
      ((Scene.next _ (entering (.challenge i))).next (.asked t)).latest = some u ∧ _
    rw [next_of_authorizationAsk ht]
    exact ⟨rfl, t, rfl, ht, hc⟩
  generalize hr : (Except.ok c : Except Failure PendingChallenge) = r at h
  cases h with
  | offered ht hc =>
    cases hr
    exact hlast ht hc []
  | @registered t t' _ ds ht _ _ ht' =>
    have hc := offered_eq_ok hr.symm
    rw [← List.append_assoc]
    exact hlast ht' hc _
  | _ => cases hr

/-- A poll changes nothing, and neither does the pause after it. -/
theorem Polling.seen {policy : PollPolicy} {c : PendingChallenge} {remaining : Nat}
    {ds : List Deed} {r : Except Failure Unit} (h : Polling policy c remaining ds r) {σ : Scene}
    (hs : Serving config client c σ) : Seen (Admits config client) σ ds σ := by
  have hpoll {t : Turn} {ds : List Deed} (ht : t.ask = .plain c.uri)
      (hrest : Seen (Admits config client) σ ds σ) :
      Seen (Admits config client) σ (.asked t :: ds) σ := by
    have hnext : σ.next (.asked t) = σ := by
      rw [Scene.next, ht]
      rfl
    refine .asked (.opened hs (.inr ht)) ?_
    rw [hnext]
    exact hrest
  induction h with
  | spent => exact .nil σ
  | valid ht => exact hpoll ht (.nil σ)
  | failed ht => exact hpoll ht (.nil σ)
  | @pending remaining t ds r ht _ _ ih =>
    refine hpoll ht ?_
    have hpause : Seen (Admits config client) σ (pause policy remaining) σ := by
      rw [pause]
      split
      · exact .other (.nil σ)
      · exact .nil σ
    exact hpause.append ih

theorem Deciding.seen {policy : PollPolicy} {c : PendingChallenge} {ds : List Deed}
    {r : Except Failure Unit} (h : Deciding client policy c ds r) {σ : Scene}
    (hs : Serving config client c σ) : Seen (Admits config client) σ ds σ := by
  have hactivate {t : Turn} {ds : List Deed} (ht : t.ask = client.activationAsk c)
      (hrest : Seen (Admits config client) σ ds σ) :
      Seen (Admits config client) σ (.asked t :: ds) σ := by
    have hnext : σ.next (.asked t) = σ := by
      rw [Scene.next, ht]
      rfl
    refine .asked (.opened hs (.inl ht)) ?_
    rw [hnext]
    exact hrest
  cases h with
  | unactivated ht => exact hactivate ht (.nil σ)
  | polled ht _ hp => exact hactivate ht (.other (hp.seen hs))

/-- Whichever way a challenge comes to its end, it is withdrawn then. -/
theorem Completing.seen {i : Nat} {domain : String} {c : PendingChallenge} {ds : List Deed}
    {r : Except Failure Unit} (h : Completing config client c ds r) {σ : Scene}
    (hσ : σ.registry = []) (hphase : σ.phase = .challenge i)
    (hdomain : config.domains[i]? = some domain)
    (hoffer : ∃ u, σ.latest = some u ∧ u.ask = client.authorizationAsk domain
      ∧ u.authorization domain = .ok (.challenge c)) :
    ∃ τ, Seen (Admits config client) σ ds τ ∧ τ.registry = [] := by
  obtain ⟨u, hlatest, hu, hc⟩ := hoffer
  cases h with
  | deaf => exact ⟨σ, .nil σ, hσ⟩
  | @served start ds _ hstart hd =>
    let authorization := client.account.keyAuthorization c.token
    let τ : Scene := { σ with registry := [(c.token, authorization)] }
    have hlisten : Seen (Admits config client) σ start σ := by
      rcases hstart with rfl | rfl
      · exact .nil σ
      · exact .other (.nil σ)
    have hoffered : σ.next (.other (.offered c.token authorization)) = τ := by
      show { σ with registry := σ.registry.add c.token authorization } = τ
      rw [hσ]
      rfl
    have hs : Serving config client c τ := ⟨rfl, i, domain, u, hphase, hdomain, hlatest, hu, hc⟩
    have hwithdrawn : (τ.next (.other (.withdrawn c.token))).registry = [] := by
      show Registry.remove [(c.token, authorization)] c.token = []
      simp [Registry.remove]
    refine ⟨τ.next (.other (.withdrawn c.token)), hlisten.append (.other ?_), hwithdrawn⟩
    rw [hoffered]
    exact (hd.seen hs).append (.other (.nil _))

theorem Passing.shut {i : Nat} {domain : String} {ds : List Deed} {r : Except Failure Unit}
    {b b' : Bool} (h : Passing config client i domain b ds r b')
    (hdomain : config.domains[i]? = some domain) : Shut config client ds := by
  cases h with
  | unobtained ho => exact ho.shut
  | obtained ho hc =>
    intro σ hσ
    obtain ⟨τ, hseen, hτ⟩ := ho.shut σ hσ
    -- The challenge is completed in the scene that obtaining it left, so its offer is the latest.
    obtain ⟨hphase, hoffer⟩ := ho.offers_at σ
    rw [← hseen.eq_foldl] at hphase hoffer
    obtain ⟨υ, hseen', hυ⟩ := hc.seen hτ hphase hdomain hoffer
    exact ⟨υ, hseen.append hseen', hυ⟩

theorem Authorizing.shut {i : Nat} {domains : List String} {ds : List Deed}
    {r : Except Failure Unit} {b b' : Bool} (h : Authorizing config client i domains b ds r b')
    (hdomains : config.domains.drop i = domains) : Shut config client ds := by
  have hhead {i : Nat} {domain : String} {rest : List String}
      (hdomains : config.domains.drop i = domain :: rest) : config.domains[i]? = some domain := by
    rw [← List.head?_drop, hdomains]
    rfl
  induction h with
  | nil => exact .nil
  | stopped hp => exact hp.shut (hhead hdomains)
  | cons hp _ ih =>
    refine (hp.shut (hhead hdomains)).append (ih ?_)
    rw [← List.tail_drop, hdomains]
    rfl

/-! ## The certificate -/

theorem Requesting.shut {certKey : String} {ds : List Deed} {r : Except Failure CertificateReply}
    {b b' : Bool} (h : Requesting config client certKey b ds r b') : Shut config client ds := by
  cases h with
  | unauthorized ha => exact .entering _ (ha.shut rfl)
  | unrequested ha => exact .entering _ ((ha.shut rfl).append (.entering _ .nil))
  | requested ha _ ht =>
    refine .entering _ ((ha.shut rfl).append (.entering _ (.asked ?_ .nil)))
    intro phase
    rw [ht]
    rfl

theorem Issuing.shut {certKey : String} {ds : List Deed} {r : Except Failure IssuedCertificate}
    {g g' : Guards} (h : Issuing config client certKey g ds r g') : Shut config client ds := by
  cases h with
  | failed hr => exact hr.shut
  | issued hr => exact hr.shut
  | twice hr hr' => exact hr.shut.append hr'.shut

theorem Changing.shut {steps : List FileStep} {ds : List Deed} {fault : Option SystemFault}
    (h : Changing steps ds fault) : Shut config client ds := by
  induction h with
  | nil => exact .nil
  | stopped => exact Shut.nil.other fun _ hσ => hσ
  | cons _ ih => exact ih.other fun _ hσ => hσ

theorem Writing.shut {certKey : String} {c : IssuedCertificate} {ds : List Deed}
    {r : Except Failure Unit} (h : Writing config certKey c ds r) : Shut config client ds := by
  cases h with
  | keyless hk => exact hk.shut
  | leafless hk hc => exact hk.shut.append hc.shut
  | written hk hc => exact hk.shut.append hc.shut

/-- What is fetched in the last phase is no poll. -/
theorem Fetching.shut {url : String} {ds : List Deed} {r : Except Failure Unit}
    (h : Fetching config url ds r) :
    Shut config client (entering .intermediateFetch :: ds) := by
  have hfetch {t : Turn} {ds : List Deed} (ht : t.ask = .plain url)
      (hrest : Shut config client ds) :
      Shut config client (entering .intermediateFetch :: .asked t :: ds) := by
    intro σ hσ
    let τ : Scene := { σ with phase := .intermediateFetch }
    have hnext : τ.next (.asked t) = τ := by
      rw [Scene.next, ht]
      rfl
    have hclosed : t.ask.isValidation τ.phase = false := by
      rw [ht]
      rfl
    obtain ⟨υ, hseen, hυ⟩ := hrest τ hσ
    rw [← hnext] at hseen
    exact ⟨υ, .other (.asked (.closed hclosed hσ) hseen), hυ⟩
  cases h with
  | unfetched ht => exact hfetch ht .nil
  | unwritten ht _ hi => exact hfetch ht hi.shut
  | written ht _ hi => exact hfetch ht hi.shut

theorem Delivering.shut {certKey : String} {c : IssuedCertificate} {ds : List Deed}
    {r : Except Failure IssuedFiles} (h : Delivering config certKey c ds r) :
    Shut config client ds := by
  cases h with
  | unwritten hw => exact hw.shut
  | unfetched hw hf => exact hw.shut.append hf.shut
  | delivered hw hf => exact hw.shut.append (hf.shut.append (.entering _ .nil))

/-! ## The run -/

theorem Keeping.shut {keys : KeySupply} {present : Bool} {ds : List Deed}
    {r : Except Failure (Account × Bool)} (h : Keeping config keys present ds r) :
    Shut config client ds := by
  cases h with
  | unsaved _ _ hs => exact hs.shut
  | unusable _ _ hs => exact hs.shut
  | saved _ _ hs => exact hs.shut
  | _ => exact .nil

theorem Opening.shut {isNew b b' : Bool} {ds : List Deed} {r : Except Failure Unit}
    (h : Opening config client isNew b ds r b') : Shut config client ds := by
  have hask {t : Turn} {ds : List Deed} (ht : t.ask = .nonce) (hrest : Shut config client ds) :
      Shut config client (entering .nonce :: .asked t :: ds) := by
    refine .entering _ (.asked ?_ hrest)
    intro phase
    rw [ht]
    rfl
  cases h with
  | nonceless ht => exact hask ht .nil
  | known ht => exact hask ht .nil
  | registering ht _ hr => exact hask ht hr.shut

theorem Proceeding.shut {isNew : Bool} {certKey : String} {ds : List Deed}
    {r : Except Failure IssuedFiles} {g g' : Guards}
    (h : Proceeding config client isNew certKey g ds r g') : Shut config client ds := by
  cases h with
  | unopened ho => exact ho.shut
  | unissued ho hi => exact ho.shut.append hi.shut
  | issued ho hi hd => exact (ho.shut.append hi.shut).append hd.shut

theorem Running.shut {keys : KeySupply} {present : Bool} {account : Account} {ds : List Deed}
    {r : Except Failure IssuedFiles} {g : Guards}
    (h : Running config keys present account ds r g) :
    Shut config ⟨config.endpoints, account⟩ ds := by
  cases h with
  | unkept hk => exact .entering _ hk.shut
  | unkeyed hk => exact .entering _ hk.shut
  | proceeding hk _ hp => exact .entering _ (hk.shut.append hp.shut)

/-! ## What visitors find -/

/-- While the requests of a turn are under way, visitors are answered in this way. -/
structure Exposes (config : Config) (account : Account) (reachable : Bool) (σ : Scene) (t : Turn)
    (e : Exposure) : Prop where
  answered : ∀ x ∈ t.exchanges, ∀ v ∈ x.visits, v.2 = e.answer reachable v.1
  closed : t.ask.isValidation σ.phase = false → e.registry = []
  opened : t.ask.isValidation σ.phase = true → ∃ i domain u c, σ.phase = .challenge i
    ∧ config.domains[i]? = some domain ∧ σ.latest = some u
    ∧ u.ask = Client.authorizationAsk ⟨config.endpoints, account⟩ domain
    ∧ u.authorization domain = .ok (.challenge c)
    ∧ (t.ask = Client.activationAsk ⟨config.endpoints, account⟩ c ∨ t.ask = .plain c.uri)
    ∧ e.registry = [(c.token, c.token ++ "." ++ account.thumbprint)]
    ∧ ∀ visit : Visit, visit.method = .get → visit.target = challengePath ++ c.token →
      e.answer reachable visit
        = if reachable then some (found (c.token ++ "." ++ account.thumbprint)) else none
  /-- Any other challenge is not found, or the visitor is refused. -/
  refused : ∀ (visit : Visit) (token : String), visit.method = .get →
    tokenOfPath? (pathOfTarget visit.target) = some token → e.registry.get? token = none →
    e.answer reachable visit = if e.listening && reachable then some { status := 404 } else none

theorem exposes_of_admits {account : Account} {reachable : Bool} {σ : Scene} {t : Turn}
    {e : Exposure} (h : Admits config ⟨config.endpoints, account⟩ σ t)
    (hregistry : e.registry = σ.registry) (hsound : e.IsSound)
    (hanswered : ∀ x ∈ t.exchanges, ∀ v ∈ x.visits, v.2 = e.answer reachable v.1) :
    Exposes config account reachable σ t e := by
  refine ⟨hanswered, ?_, ?_, ?_⟩
  · intro hclosed
    cases h with
    | closed _ hr => exact hregistry.trans hr
    | @opened c hs hask =>
      obtain ⟨i, _, _, hphase, _⟩ := hs.offered
      rcases hask with hask | hask
      · rw [hask] at hclosed
        cases hclosed
      · rw [hask, hphase] at hclosed
        cases hclosed
  · intro hopened
    cases h with
    | closed hclosed =>
      rw [hopened] at hclosed
      cases hclosed
    | @opened c hs hask =>
      obtain ⟨i, domain, u, hphase, hdomain, hlatest, hu, hc⟩ := hs.offered
      have hserved : e.registry = [(c.token, c.token ++ "." ++ account.thumbprint)] :=
        hregistry.trans hs.registry
      refine ⟨i, domain, u, c, hphase, hdomain, hlatest, hu, hc, hask, hserved, ?_⟩
      intro visit hmethod htarget
      have hlistening : e.listening = true := hsound (by rw [hserved]; exact List.cons_ne_nil _ _)
      have htoken := Turn.isToken_of_authorization hc
      have hget : e.registry.get? c.token = some (c.token ++ "." ++ account.thumbprint) := by
        rw [hserved]
        simp [Registry.get?]
      rw [Exposure.answer, hlistening, Bool.true_and, hmethod, htarget,
        pathOfTarget_challengePath htoken, respond_of_get? (tokenOfPath?_challengePath htoken),
        hget]
  · intro visit token hmethod hpath hnone
    rw [Exposure.answer, hmethod, respond_of_get? hpath, hnone]

/-- Visitors during all exchanges of a turn find the same. -/
theorem answered_of_attended {reachable : Bool} {e e' : Exposure} {xs : List Exchange}
    (h : Attended reachable e (xs.map Exchange.event) e') {x : Exchange} (hx : x ∈ xs) :
    ∀ v ∈ x.visits, v.2 = e.answer reachable v.1 := by
  have hstill : ∀ event ∈ xs.map Exchange.event, e.next event = e := by
    intro event hevent
    obtain ⟨y, _, rfl⟩ := List.mem_map.1 hevent
    rfl
  exact h.fits_of_still hstill x.event (List.mem_map_of_mem hx)

theorem listening_foldl (events : List Event) (e : Exposure) :
    (events.foldl Exposure.next e).listening = true
      ↔ e.listening = true ∨ ∃ address, .listened address ∈ events := by
  induction events generalizing e with
  | nil => simp
  | cons event events ih =>
    rw [List.foldl_cons, ih]
    cases event with
    | listened address =>
      exact iff_of_true (.inl rfl) (.inr ⟨address, List.mem_cons_self⟩)
    | _ => simp [Exposure.next]

theorem listened_mem_events {ds : List Deed} {address : Endpoint} :
    .listened address ∈ ds.flatMap Deed.events ↔ .other (.listened address) ∈ ds := by
  rw [List.mem_flatMap]
  constructor
  · rintro ⟨d, hd, hevent⟩
    cases d with
    | asked t =>
      obtain ⟨x, _, hx⟩ := List.mem_map.1 hevent
      cases hx
    | other event =>
      rw [List.mem_singleton.1 hevent]
      exact hd
  · intro h
    exact ⟨_, h, List.mem_singleton.2 rfl⟩

/-- In every run that starts with nothing served, visitors find the challenge that is validated at
the moment and no other, and in the end nothing is served. -/
theorem run_exposes (config : Config) (keys : KeySupply) (s : Session) (h : s.registry = []) :
    ∃ account deeds, Told config keys s account deeds
      ∧ (s.after (run config keys)).registry = []
      ∧ ∀ before t after, deeds = before ++ .asked t :: after →
        ∃ e : Exposure, Exposes config account s.reachable (Scene.after before) t e
          ∧ (e.listening = true
            ↔ s.listening = true ∨ ∃ address, .other (.listened address) ∈ before) := by
  obtain ⟨account, deeds, htold⟩ := run_follows config keys s
  obtain ⟨τ, hseen, hτ⟩ := htold.running.shut {} rfl
  have hattended : Attended s.reachable s.exposure (deeds.flatMap Deed.events)
      (s.after (run config keys)).exposure :=
    (run_attends config keys s).deeds htold.happened.course
  refine ⟨account, deeds, htold, ?_, ?_⟩
  · have hend := registry_foldl deeds (σ := {}) (e := s.exposure) h
    rw [← hattended.eq_foldl, ← hseen.eq_foldl, hτ] at hend
    exact hend
  · rintro before t after rfl
    rw [List.flatMap_append, List.flatMap_cons] at hattended
    obtain ⟨e, hbefore, hrest⟩ := hattended.split
    obtain ⟨_, hturn, _⟩ := hrest.split
    have hregistry : e.registry = (Scene.after before).registry := by
      rw [hbefore.eq_foldl]
      exact registry_foldl before h
    have hsound : e.IsSound := hbefore.isSound fun hne => absurd h hne
    refine ⟨e, exposes_of_admits hseen.seen_at hregistry hsound ?_, ?_⟩
    · intro x hx
      exact answered_of_attended hturn hx
    · rw [hbefore.eq_foldl, listening_foldl]
      simp only [listened_mem_events]
      rfl

/-- Both challenges are asked for during every request of a run that serves one after the other. -/
theorem run_exposes_twoDomains :
    let peer : Endpoint := ⟨.v4 192 0 2 1, 40000⟩
    let s := obliging [{ peer := peer, target := challengePath ++ "t0" },
      { peer := peer, target := challengePath ++ "t1" }]
    s.registry = []
      ∧ s.outcome (run twoDomains prothKeys) = .ok (Run.files twoDomains)
      ∧ ∃ account deeds, Told twoDomains prothKeys s account deeds
        ∧ (s.after (run twoDomains prothKeys)).registry = []
        ∧ ∀ before t after, deeds = before ++ .asked t :: after →
          ∃ e : Exposure, Exposes twoDomains account s.reachable (Scene.after before) t e
            ∧ (e.listening = true
              ↔ s.listening = true ∨ ∃ address, .other (.listened address) ∈ before) :=
  ⟨rfl, run_twoDomains_succeeds _, run_exposes _ _ _ rfl⟩

end Run

end Acme
