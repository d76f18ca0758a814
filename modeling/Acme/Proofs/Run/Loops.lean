import Acme.Proofs.Run.Bounds
import Acme.Proofs.Session.Steady

/-!
# The loops of a run

A run goes over the domains in a loop that moves its cursor only when a domain is authorized, and
over this loop in another one that starts the cursor again. A round of either may ask for one more
round without any progress of the cursor, but the guards allow that once only. So the loops end
after a bounded number of rounds, with what the recursion over the domains comes to (`run_ends`).

Main definitions: `Loop`, `domainRound` and `issueRound`.
-/

namespace Acme

open Session Run

/-! ## Loops -/

section
variable {ε α : Type}

/-- A loop is left with a value or a failure after a number of rounds; a round that gives nothing is
followed by another one. -/
inductive Loop (round : Action ε (Option α)) :
    Nat → Session → EStateM.Result ε Session α → Prop
  | ended {s s' : Session} {x : α} (h : round s = .ok (some x) s') : Loop round 1 s (.ok x s')
  | failed {s s' : Session} {e : ε} (h : round s = .error e s') : Loop round 1 s (.error e s')
  | again {s s' : Session} {n : Nat} {r : EStateM.Result ε Session α} (h : round s = .ok none s')
    (rest : Loop round n s' r) : Loop round (n + 1) s r

theorem Loop.unique {round : Action ε (Option α)} {n m : Nat} {s : Session}
    {r r' : EStateM.Result ε Session α} (h : Loop round n s r) (h' : Loop round m s r') :
    n = m ∧ r = r' := by
  induction h generalizing m with
  | ended h =>
    cases h' with
    | ended h' =>
      rw [h] at h'
      cases h'
      exact ⟨rfl, rfl⟩
    | failed h' =>
      rw [h] at h'
      cases h'
    | again h' _ =>
      rw [h] at h'
      cases h'
  | failed h =>
    cases h' with
    | ended h' =>
      rw [h] at h'
      cases h'
    | failed h' =>
      rw [h] at h'
      cases h'
      exact ⟨rfl, rfl⟩
    | again h' _ =>
      rw [h] at h'
      cases h'
  | again h _ ih =>
    cases h' with
    | ended h' =>
      rw [h] at h'
      cases h'
    | failed h' =>
      rw [h] at h'
      cases h'
    | again h' rest' =>
      rw [h] at h'
      cases h'
      obtain ⟨rfl, rfl⟩ := ih rest'
      exact ⟨rfl, rfl⟩

end

/-- What is done about the reply to a request for an authorization. -/
def replyRound (config : Config) (client : Client) (domain : String) :
    AuthorizationReply → Action Failure (Option Unit)
  | .challenge challenge => do
    completeChallenge client config.httpBind config.policy challenge
    modify fun s => { s with domains := s.domains.advance }
    return none
  | .unauthorized problem => do
    if (← get).guards.registered then throw (refused domain problem)
    log .info "CA does not know this account, registering" [("problem", .shown problem.text)]
    register config client
    return none

/-- One round of the loop over the domains; it ends when the cursor is behind the last one. -/
def domainRound (config : Config) (client : Client) : Action Failure (Option Unit) := do
  let list := (← get).domains
  match list.current? with
  | none => return some ()
  | some domain =>
    enter (.challenge list.cursor)
    let reply ← requestAuthorization client domain
    replyRound config client domain reply

/-- One round of the loop over the requests for the certificate. -/
def issueRound (config : Config) (client : Client) (certKey : String) :
    Action Failure (Option IssuedCertificate) := do
  match ← authorizeAndRequest config client certKey with
  | .issued certificate => return some certificate
  | .unauthorized problem =>
    if (← get).guards.authorized then
      throw (.certificateRequest ("still unauthorized after re-authorization: " ++ problem.text))
    log .warn "Certificate refused, authorizing domains again" [("problem", .shown problem.text)]
    modify fun s => { s with guards := { s.guards with authorized := true } }
    return none

/-! ## What the rounds leave alone -/

theorem domains_exchange (s : Session) (request : Http.Request) :
    (s.after (exchange request)).domains = s.domains := by
  obtain ⟨served, entries, visits, hafter⟩ := exists_after_exchange s request
  rw [hafter]
  show (s.nextAnswer request).2.domains = s.domains
  rw [nextAnswer]
  split <;> rfl

theorem steady_domains : Steady fun s s' => s'.domains = s.domains where
  refl _ := rfl
  trans h h' := h'.trans h
  aside h := h.domains
  recorded _ _ _ := rfl
  exchanged := domains_exchange
  listened _ _ := rfl
  offered _ _ _ _ := rfl
  withdrawn _ _ := rfl

theorem domains_after {ε α : Type} {a : Action ε α} (ha : Composed false a) (s : Session) :
    (s.after a).domains = s.domains :=
  steady_domains.respects ha nofun s

/-! ## The loop over the domains -/

section
variable {config : Config} {client : Client} {index : Nat} {domain : String} {s : Session}

/-- The session in which an authorization is asked for. -/
def challenging (s : Session) (index : Nat) : Session :=
  s.after (enter (.challenge index) : Action Failure Unit)

/-- The session in which the reply to a request for an authorization is known. -/
def authorizationAsked (client : Client) (s : Session) (index : Nat) (domain : String) : Session :=
  (challenging s index).after (requestAuthorization client domain)

theorem authorizationAsked_eq (client : Client) (s : Session) (index : Nat) (domain : String) :
    (authorizationAsked client s index domain).domains = s.domains
      ∧ (authorizationAsked client s index domain).guards = s.guards := by
  have hdomains := domains_after (.requestAuthorization client domain) (challenging s index)
  obtain ⟨_, _, hguards, _⟩ :=
    @requestAuthorization_follows client (challenging s index) domain
  exact ⟨hdomains, hguards⟩

theorem obtainChallenge_of_error {f : Failure}
    (h : (challenging s index).outcome (requestAuthorization client domain) = .error f) :
    obtainChallenge config client index domain s
      = .error f (authorizationAsked client s index domain) :=
  bind_of_error _ h

theorem obtainChallenge_of_challenge {c : PendingChallenge}
    (h : (challenging s index).outcome (requestAuthorization client domain)
      = .ok (.challenge c)) :
    obtainChallenge config client index domain s
      = .ok c (authorizationAsked client s index domain) :=
  bind_of_ok _ h

theorem obtainChallenge_of_refused {problem : Problem}
    (h : (challenging s index).outcome (requestAuthorization client domain)
      = .ok (.unauthorized problem)) (hr : s.guards.registered = true) :
    obtainChallenge config client index domain s
      = .error (refused domain problem) (authorizationAsked client s index domain) := by
  refine (bind_of_ok _ h).trans ?_
  have hregistered : (authorizationAsked client s index domain).guards.registered = true := by
    rw [(authorizationAsked_eq client s index domain).2, hr]
  show (if (authorizationAsked client s index domain).guards.registered = true then _ else _
    : Action Failure _) _ = _
  rw [if_pos hregistered]
  rfl

/-- The session in which the account is registered on the way. -/
def enrolling (client : Client) (s : Session) (index : Nat) (domain : String) (problem : Problem) :
    Session :=
  (authorizationAsked client s index domain).recorded (.logged ⟨.info,
    "CA does not know this account, registering", [("problem", .shown problem.text)]⟩)

def enrolled (config : Config) (client : Client) (s : Session) (index : Nat) (domain : String)
    (problem : Problem) : Session :=
  (enrolling client s index domain problem).after (register config client)

theorem enrolled_eq (config : Config) (client : Client) (s : Session) (index : Nat)
    (domain : String) (problem : Problem) :
    (enrolled config client s index domain problem).domains = s.domains
      ∧ (enrolled config client s index domain problem).guards.registered = true := by
  have hasked := authorizationAsked_eq client s index domain
  have hdomains :=
    domains_after (.register config client) (enrolling client s index domain problem)
  obtain ⟨_, _, hguards, _⟩ :=
    @register_follows client (enrolling client s index domain problem) config
  refine ⟨hdomains.trans hasked.1, ?_⟩
  rw [enrolled, hguards]

theorem obtainChallenge_of_unauthorized {problem : Problem}
    (h : (challenging s index).outcome (requestAuthorization client domain)
      = .ok (.unauthorized problem)) (hr : s.guards.registered = false) :
    obtainChallenge config client index domain s
      = (do
          register config client
          enter (.challenge index)
          match ← requestAuthorization client domain with
          | .challenge challenge => return challenge
          | .unauthorized problem => throw (refused domain problem) : Action Failure _)
        (enrolling client s index domain problem) := by
  refine (bind_of_ok _ h).trans ?_
  have hregistered : ¬ (authorizationAsked client s index domain).guards.registered = true := by
    rw [(authorizationAsked_eq client s index domain).2, hr]
    exact Bool.false_ne_true
  show (if (authorizationAsked client s index domain).guards.registered = true then _ else _
    : Action Failure _) _ = _
  rw [if_neg hregistered]
  rfl

/-- Once the account is registered, the challenge is obtained as if nothing had been before. -/
theorem obtainChallenge_of_enrolled {problem : Problem}
    (h : (challenging s index).outcome (requestAuthorization client domain)
      = .ok (.unauthorized problem)) (hr : s.guards.registered = false)
    (he : (enrolling client s index domain problem).outcome (register config client) = .ok ()) :
    obtainChallenge config client index domain s
      = obtainChallenge config client index domain
        (enrolled config client s index domain problem) := by
  have hregistered := (enrolled_eq config client s index domain problem).2
  rw [obtainChallenge_of_unauthorized h hr, bind_of_ok _ he]
  show (requestAuthorization client domain >>= _ : Action Failure _)
    (challenging (enrolled config client s index domain problem) index) = _
  cases ho : (challenging (enrolled config client s index domain problem) index).outcome
      (requestAuthorization client domain) with
  | error f =>
    rw [obtainChallenge_of_error ho, bind_of_error _ ho]
    rfl
  | ok reply =>
    rw [bind_of_ok _ ho]
    cases reply with
    | challenge c =>
      rw [obtainChallenge_of_challenge ho]
      rfl
    | unauthorized problem' =>
      rw [obtainChallenge_of_refused ho hregistered]
      rfl

theorem domainRound_eq (hs : s.domains.current? = some domain) :
    domainRound config client s = (do
      let reply ← requestAuthorization client domain
      replyRound config client domain reply : Action Failure _)
        (challenging s s.domains.cursor) := by
  show (match s.domains.current? with
    | none => pure (some ())
    | some domain => do
      enter (.challenge s.domains.cursor)
      let reply ← requestAuthorization client domain
      replyRound config client domain reply : Action Failure _) s = _
  rw [hs]
  rfl

variable {rest : List String}

theorem authorizeFrom_of_error {f : Failure} {s' : Session}
    (h : obtainChallenge config client index domain s = .error f s') :
    authorizeFrom config client index (domain :: rest) s = .error f s' := by
  have ho : s.outcome (authorizeDomain config client index domain) = .error f :=
    outcome_bind_of_error _ (outcome_of_error h)
  have ha : s.after (authorizeDomain config client index domain) = s' :=
    (after_bind_of_error _ (outcome_of_error h)).trans (after_of_error h)
  rw [authorizeFrom, bind_of_error _ ho, ha]

theorem authorizeFrom_of_challenge {c : PendingChallenge} {s' : Session}
    (h : obtainChallenge config client index domain s = .ok c s') :
    authorizeFrom config client index (domain :: rest) s = (do
      completeChallenge client config.httpBind config.policy c
      modify fun s => { s with domains := s.domains.advance }
      authorizeFrom config client (index + 1) rest : Action Failure _) s' := by
  rw [authorizeFrom, authorizeDomain, bind_assoc, bind_of_ok _ (outcome_of_ok h), after_of_ok h,
    bind_assoc]

theorem authorizeFrom_congr {s' : Session}
    (h : obtainChallenge config client index domain s
      = obtainChallenge config client index domain s') :
    authorizeFrom config client index (domain :: rest) s
      = authorizeFrom config client index (domain :: rest) s' := by
  cases hs' : obtainChallenge config client index domain s' with
  | error f t =>
    rw [hs'] at h
    rw [authorizeFrom_of_error h, authorizeFrom_of_error hs']
  | ok c t =>
    rw [hs'] at h
    rw [authorizeFrom_of_challenge h, authorizeFrom_of_challenge hs']

/-- The loop, started with the cursor at a place, ends as the recursion from there does. -/
def Ends (config : Config) (client : Client) (index : Nat) (rest : List String) (s : Session) :
    Prop :=
  ∃ n, n ≤ rest.length + 1 + (!s.guards.registered).toNat
    ∧ Loop (domainRound config client) n s (authorizeFrom config client index rest s)

theorem Ends.failed {f : Failure} {s' : Session} (h : domainRound config client s = .error f s')
    (h' : obtainChallenge config client index domain s = .error f s') :
    Ends config client index (domain :: rest) s := by
  refine ⟨1, ?_, ?_⟩
  · rw [List.length_cons]
    omega
  · rw [authorizeFrom_of_error h']
    exact .failed h

/-- A challenge is completed, and then the cursor moves. -/
theorem Ends.challenge {c : PendingChallenge}
    (ho : (challenging s index).outcome (requestAuthorization client domain)
      = .ok (.challenge c))
    (hs : s.domains = ⟨config.domains, index⟩) (hd : config.domains[index]? = some domain)
    (ih : ∀ s : Session, s.domains = ⟨config.domains, index + 1⟩ →
      Ends config client (index + 1) rest s) :
    Ends config client index (domain :: rest) s := by
  have hindex : index < config.domains.length := (List.getElem?_eq_some_iff.1 hd).1
  have hcurrent : s.domains.current? = some domain := by rw [hs]; exact hd
  obtain ⟨hasked, hguards⟩ := authorizationAsked_eq client s index domain
  let s₂ := authorizationAsked client s index domain
  let complete := completeChallenge client config.httpBind config.policy c
  have hround : domainRound config client s = (do
      complete
      modify fun s => { s with domains := s.domains.advance }
      return none : Action Failure _) s₂ := by
    rw [domainRound_eq hcurrent, hs, bind_of_ok _ ho]
    rfl
  have hobtained : obtainChallenge config client index domain s = .ok c s₂ :=
    obtainChallenge_of_challenge ho
  have hfrom : authorizeFrom config client index (domain :: rest) s = _ :=
    authorizeFrom_of_challenge hobtained
  have hcomplete : (s₂.after complete).domains = s.domains :=
    (domains_after (.completeChallenge client _ _ c) s₂).trans hasked
  obtain ⟨_, _, hkept, _⟩ := @completeChallenge_follows client s₂ config c
  cases hc : s₂.outcome complete with
  | error f =>
    rw [bind_of_error _ hc] at hround hfrom
    refine ⟨1, ?_, ?_⟩
    · rw [List.length_cons]
      omega
    · rw [hfrom]
      exact .failed hround
  | ok _ =>
    rw [bind_of_ok _ hc] at hround hfrom
    let s₃ := s₂.after complete
    let s₄ : Session := { s₃ with domains := s₃.domains.advance }
    have hadvanced : s₄.domains = ⟨config.domains, index + 1⟩ := by
      show s₃.domains.advance = _
      rw [hcomplete, hs]
      exact if_pos hindex
    have hregistered : s₄.guards.registered = s.guards.registered := by
      show s₃.guards.registered = _
      rw [hkept, hguards]
    obtain ⟨n, hn, hloop⟩ := ih s₄ hadvanced
    rw [hregistered] at hn
    refine ⟨n + 1, ?_, ?_⟩
    · rw [List.length_cons]
      omega
    · rw [hfrom]
      exact .again hround hloop

/-- A round that does not register the account is the last one or makes progress. -/
theorem Ends.settled (hs : s.domains = ⟨config.domains, index⟩)
    (hd : config.domains[index]? = some domain)
    (hr : ∀ problem, (challenging s index).outcome (requestAuthorization client domain)
      = .ok (.unauthorized problem) → s.guards.registered = true)
    (ih : ∀ s : Session, s.domains = ⟨config.domains, index + 1⟩ →
      Ends config client (index + 1) rest s) :
    Ends config client index (domain :: rest) s := by
  have hcurrent : s.domains.current? = some domain := by rw [hs]; exact hd
  cases ho : (challenging s index).outcome (requestAuthorization client domain) with
  | error f =>
    refine .failed ?_ (obtainChallenge_of_error ho)
    rw [domainRound_eq hcurrent, hs, bind_of_error _ ho]
    rfl
  | ok reply =>
    cases reply with
    | challenge c => exact .challenge ho hs hd ih
    | unauthorized problem =>
      have hregistered := hr problem ho
      refine .failed ?_ (obtainChallenge_of_refused ho hregistered)
      have hasked : (authorizationAsked client s index domain).guards.registered = true := by
        rw [(authorizationAsked_eq client s index domain).2, hregistered]
      rw [domainRound_eq hcurrent, hs, bind_of_ok _ ho]
      show (if (authorizationAsked client s index domain).guards.registered = true then _ else _
        : Action Failure _) _ = _
      rw [if_pos hasked]
      rfl

/-- A round without progress registers the account. -/
theorem Ends.unauthorized {problem : Problem}
    (ho : (challenging s index).outcome (requestAuthorization client domain)
      = .ok (.unauthorized problem))
    (hs : s.domains = ⟨config.domains, index⟩) (hd : config.domains[index]? = some domain)
    (hr : s.guards.registered = false)
    (ih : ∀ s : Session, s.domains = ⟨config.domains, index + 1⟩ →
      Ends config client (index + 1) rest s) :
    Ends config client index (domain :: rest) s := by
  have hcurrent : s.domains.current? = some domain := by rw [hs]; exact hd
  have hasked : ¬ (authorizationAsked client s index domain).guards.registered = true := by
    rw [(authorizationAsked_eq client s index domain).2, hr]
    exact Bool.false_ne_true
  have hround : domainRound config client s = (do
      register config client
      return none : Action Failure _) (enrolling client s index domain problem) := by
    rw [domainRound_eq hcurrent, hs, bind_of_ok _ ho]
    show (if (authorizationAsked client s index domain).guards.registered = true then _ else _
      : Action Failure _) _ = _
    rw [if_neg hasked]
    rfl
  cases he : (enrolling client s index domain problem).outcome (register config client) with
  | error f =>
    refine .failed (hround.trans (bind_of_error _ he)) ?_
    rw [obtainChallenge_of_unauthorized ho hr, bind_of_error _ he]
  | ok _ =>
    -- The guard is set from here on, so the next round over the same domain settles it.
    obtain ⟨hdomains, hregistered⟩ := enrolled_eq config client s index domain problem
    obtain ⟨n, hn, hloop⟩ := Ends.settled (hdomains.trans hs) hd (fun _ _ => hregistered) ih
    refine ⟨n + 1, ?_, ?_⟩
    · rw [hregistered] at hn
      rw [hr]
      exact Nat.succ_le_succ hn
    · rw [authorizeFrom_congr (obtainChallenge_of_enrolled ho hr he)]
      exact .again (hround.trans (bind_of_ok _ he)) hloop

theorem authorizeFrom_ends (hrest : config.domains.drop index = rest)
    (hs : s.domains = ⟨config.domains, index⟩) : Ends config client index rest s := by
  -- On the domains behind the cursor. A round that leaves the cursor where it is sets the guard of
  -- registration, which counts for one more round in the bound.
  induction rest generalizing index s with
  | nil =>
    have hexhausted : s.domains.current? = none := by
      rw [hs]
      exact List.getElem?_eq_none (List.drop_eq_nil_iff.1 hrest)
    refine ⟨1, Nat.le_add_right 1 _, ?_⟩
    refine Loop.ended (show _ = EStateM.Result.ok (some ()) s from ?_)
    show (match s.domains.current? with
      | none => pure (some ())
      | some domain => _ : Action Failure _) s = _
    rw [hexhausted]
    rfl
  | cons domain rest ih =>
    have hd : config.domains[index]? = some domain := by
      rw [← List.head?_drop, hrest]
      rfl
    have hnext : config.domains.drop (index + 1) = rest := by
      rw [← List.tail_drop, hrest]
      rfl
    have hih (s : Session) (hs : s.domains = ⟨config.domains, index + 1⟩) :
        Ends config client (index + 1) rest s := ih hnext hs
    by_cases hr : s.guards.registered = true
    · exact .settled hs hd (fun _ _ => hr) hih
    · rw [Bool.not_eq_true] at hr
      by_cases ho : ∃ problem, (challenging s index).outcome (requestAuthorization client domain)
          = .ok (.unauthorized problem)
      · obtain ⟨problem, ho⟩ := ho
        exact .unauthorized ho hs hd hr hih
      · exact .settled hs hd (fun problem h => absurd ⟨problem, h⟩ ho) hih

end

/-! ## The loop over the requests for the certificate -/

section
variable {config : Config} {client : Client} {certKey : String} {s : Session}

theorem authorized_after (config : Config) (client : Client) (certKey : String) (s : Session) :
    (s.after (authorizeAndRequest config client certKey)).guards.authorized
      = s.guards.authorized := by
  obtain ⟨_, _, b, hguards, _⟩ := @authorizeAndRequest_follows client s config certKey
  rw [hguards]

/-- The second request for the certificate is the last one. -/
theorem issueRound_last (hs : s.guards.authorized = true) :
    Loop (issueRound config client certKey) 1 s
      ((do
        match ← authorizeAndRequest config client certKey with
        | .issued certificate => return certificate
        | .unauthorized problem => throw (.certificateRequest
            ("still unauthorized after re-authorization: " ++ problem.text)) : Action Failure _)
        s) := by
  cases ho : s.outcome (authorizeAndRequest config client certKey) with
  | error f =>
    rw [bind_of_error _ ho]
    exact .failed (bind_of_error _ ho)
  | ok reply =>
    rw [bind_of_ok _ ho]
    cases reply with
    | issued certificate => exact .ended (bind_of_ok _ ho)
    | unauthorized problem =>
      refine .failed ((bind_of_ok _ ho).trans ?_)
      have hauthorized := (authorized_after config client certKey s).trans hs
      show (if (s.after (authorizeAndRequest config client certKey)).guards.authorized = true
        then _ else _ : Action Failure _) _ = _
      rw [if_pos hauthorized]
      rfl

theorem issue_ends (hs : s.guards.authorized = false) :
    ∃ n, n ≤ 2 ∧ Loop (issueRound config client certKey) n s (issue config client certKey s) := by
  cases ho : s.outcome (authorizeAndRequest config client certKey) with
  | error f =>
    refine ⟨1, by omega, ?_⟩
    rw [issue, bind_of_error _ ho]
    exact .failed (bind_of_error _ ho)
  | ok reply =>
    cases reply with
    | issued certificate =>
      refine ⟨1, by omega, ?_⟩
      rw [issue, bind_of_ok _ ho]
      exact .ended (bind_of_ok _ ho)
    | unauthorized problem =>
      have hauthorized : ¬ (s.after (authorizeAndRequest config client certKey)).guards.authorized
          = true := by
        rw [authorized_after, hs]
        exact Bool.false_ne_true
      refine ⟨1 + 1, by omega, ?_⟩
      rw [issue, bind_of_ok _ ho]
      refine .again ((bind_of_ok _ ho).trans ?_) (issueRound_last ?_)
      · show (if (s.after (authorizeAndRequest config client certKey)).guards.authorized = true
          then _ else _ : Action Failure _) _ = _
        rw [if_neg hauthorized]
        rfl
      · rfl

end

/-! ## The run -/

/-- Every run ends, and has sent a bounded number of requests then. Its two loops end, whatever the
CA does: the one over the domains, started with the cursor at the first of them, and the one over
the requests for the certificate, started when none was refused. -/
theorem run_ends (config : Config) (keys : KeySupply) (s : Session) :
    (∀ client (t : Session), let t := { t with domains := ⟨config.domains, 0⟩ }
      ∃ n, n ≤ config.domains.length + 2 ∧ Loop (domainRound config client) n t
        (authorizeFrom config client 0 config.domains t))
      ∧ (∀ client certKey (t : Session),
        let t := { t with guards := { t.guards with authorized := false } }
        ∃ n, n ≤ 2 ∧ Loop (issueRound config client certKey) n t (issue config client certKey t))
      ∧ ∃ sent, (s.after (run config keys)).requests = s.requests ++ sent
        ∧ sent.length
          ≤ 8 * config.domains.length + 2 * config.domains.length * config.policy.maxPolls + 10
        ∧ sent.countP (fun request => request.resource? = some "new-reg") ≤ 1
        ∧ sent.countP (fun request => request.resource? = some "new-cert") ≤ 2
        ∧ sent.countP (fun request => request.resource? = some "new-authz")
          ≤ 2 * config.domains.length + 1
        ∧ sent.countP (fun request => request.resource? = some "challenge")
          ≤ 2 * config.domains.length
        ∧ sent.countP (fun request => request.method = .get)
          ≤ 2 * config.domains.length * config.policy.maxPolls + 1 := by
  refine ⟨fun client t => ?_, fun client certKey t => issue_ends rfl, run_bounded config keys s⟩
  obtain ⟨n, hn, hloop⟩ := @authorizeFrom_ends config client 0
    { t with domains := ⟨config.domains, 0⟩ } config.domains rfl rfl
  have hle := Bool.toNat_le (!t.guards.registered)
  exact ⟨n, hn.trans (by dsimp only; omega), hloop⟩

end Acme
