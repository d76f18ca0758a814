import Acme.Proofs.Run.Success
import Acme.Proofs.Session.Sent

/-!
# More polls

A run that may poll more often does what it did before, unless it gave a challenge up as pending:
then it goes on from there (`run_patient`). The two runs are compared in one session, action by
action: the more patient one does the same, or the other has given up and what it has sent is what
the more patient one has sent first (`Outlasts`).
-/

namespace Acme

open Session

/-! ## Giving up later -/

/-- A challenge was still pending after the last poll. -/
inductive GivesUp {α : Type} : Except Failure α → Prop
  | timeout (domain : String) (attempts : Nat) :
    GivesUp (.error (.challengeTimeout domain attempts))

/-- In a session, `b` does what `a` does, or goes on where `a` gives up. -/
inductive Outlasts {α : Type} (s : Session) (b a : Action Failure α) : Prop
  | same (h : b s = a s)
  | further (hgives : GivesUp (s.outcome a))
    (hsent : (s.after a).requests <+: (s.after b).requests)

namespace Outlasts

variable {α β : Type} {s : Session} {a b : Action Failure α} {f g : α → Action Failure β}

theorem refl (s : Session) (a : Action Failure α) : Outlasts s a a :=
  .same rfl

/-- The same action comes first. -/
theorem bind_left (a : Action Failure α)
    (h : ∀ x, s.outcome a = .ok x → Outlasts (s.after a) (g x) (f x)) :
    Outlasts s (a >>= g) (a >>= f) := by
  cases ho : s.outcome a with
  | error e =>
    apply Outlasts.same
    rw [bind_of_error g ho, bind_of_error f ho]
  | ok x =>
    cases h x ho with
    | same hrest =>
      apply Outlasts.same
      rw [bind_of_ok g ho, bind_of_ok f ho, hrest]
    | further hgives hsent =>
      apply Outlasts.further
      · rw [outcome_bind_of_ok f ho]
        exact hgives
      · rw [after_bind_of_ok f ho, after_bind_of_ok g ho]
        exact hsent

/-- What follows the action that gave up is left out, and what follows the other one adds to what is
sent. -/
theorem bind (ha : Outlasts s b a) (h : ∀ x t, Outlasts t (g x) (f x))
    (hg : ∀ x, Composed true (g x)) : Outlasts s (b >>= g) (a >>= f) := by
  cases ha with
  | same hsame =>
    have hfirst : (b >>= g) s = (a >>= g) s := by
      show EStateM.bind b g s = EStateM.bind a g s
      unfold EStateM.bind
      rw [hsame]
    cases bind_left (s := s) a fun x _ => h x _ with
    | same hrest => exact .same (hfirst.trans hrest)
    | further hgives hsent =>
      refine .further hgives ?_
      unfold after at hsent ⊢
      rw [hfirst]
      exact hsent
  | further hgives hsent =>
    generalize ho : s.outcome a = r at hgives
    cases hgives with
    | timeout domain attempts =>
      have hmore : (s.after b).requests <+: (s.after (b >>= g)).requests := by
        cases hb : s.outcome b with
        | error e =>
          have hended : s.after (b >>= g) = s.after b := after_bind_of_error g hb
          exact hended ▸ List.prefix_rfl
        | ok x =>
          rw [after_bind_of_ok g hb]
          exact (hg x).requests_extend _
      apply Outlasts.further
      · rw [outcome_bind_of_error f ho]
        exact .timeout domain attempts
      · rw [after_bind_of_error f ho]
        exact hsent.trans hmore

/-- The same action comes after. -/
theorem bind_right (ha : Outlasts s b a) (hf : ∀ x, Composed true (f x)) :
    Outlasts s (b >>= f) (a >>= f) :=
  ha.bind (fun x t => refl t (f x)) hf

/-- What is done in any case comes after. It sends nothing when there was a failure, and fails in the
same way. -/
theorem attempt_bind {tail : Except Failure α → Action Failure β} (ha : Outlasts s b a)
    (hcomposed : ∀ r, Composed true (tail r))
    (hfails : ∀ (e : Failure) (t : Session), t.outcome (tail (.error e)) = .error e)
    (hsilent : ∀ (e : Failure) (t : Session), (t.after (tail (.error e))).requests = t.requests) :
    Outlasts s (attempt b >>= tail) (attempt a >>= tail) := by
  have hresult (c : Action Failure α) :
      s.outcome (attempt c : Action Failure _) = .ok (s.outcome c) := outcome_attempt
  cases ha with
  | same hsame =>
    apply Outlasts.same
    have houtcome : s.outcome b = s.outcome a := by unfold outcome; rw [hsame]
    have hafter : s.after b = s.after a := by unfold after; rw [hsame]
    rw [bind_of_ok tail (hresult b), bind_of_ok tail (hresult a), after_attempt, after_attempt,
      houtcome, hafter]
  | further hgives hsent =>
    generalize ho : s.outcome a = r at hgives
    cases hgives with
    | timeout domain attempts =>
      have hended := hresult a
      rw [ho] at hended
      apply Outlasts.further
      · rw [outcome_bind_of_ok tail hended, hfails]
        exact .timeout domain attempts
      · rw [after_bind_of_ok tail hended, after_bind_of_ok tail (hresult b), hsilent,
          after_attempt, after_attempt]
        exact hsent.trans ((hcomposed _).requests_extend _)

end Outlasts

/-! ## Polling -/

/-- The policy with another bound on the polls. -/
def PollPolicy.withPolls (policy : PollPolicy) (bound : Nat) : PollPolicy :=
  { policy with maxPolls := bound }

/-- With more polls to go, polling ends with the same poll, or goes on after the last one. -/
theorem pollTimes_outlasts (policy : PollPolicy) (challenge : PendingChallenge)
    (bound remaining more : Nat) (s : Session) :
    Outlasts s (pollTimes (policy.withPolls bound) challenge (remaining + more))
      (pollTimes policy challenge remaining) := by
  have hgoes_on (t : Session) {a : Action Failure Unit} (ha : Composed true a) :
      Outlasts t a (pollTimes policy challenge 0) :=
    .further (.timeout _ _) (ha.requests_extend t)
  have hpolling (count : Nat) :
      Composed true (pollTimes (policy.withPolls bound) challenge count) :=
    .pollTimes _ _ count
  induction remaining generalizing s with
  | zero => exact hgoes_on s (hpolling _)
  | succ remaining ih =>
    have hcount : remaining + 1 + more = remaining + more + 1 := by omega
    rw [hcount, pollTimes, pollTimes]
    apply Outlasts.bind_left
    intro reply _
    cases PollVerdict.ofReply challenge.domain reply with
    | valid => exact .refl _ _
    | failed failure => exact .refl _ _
    | pending =>
      dsimp only
      by_cases hlast : remaining = 0
      · -- The last poll of the one: the other may pause and poll on.
        subst hlast
        by_cases hnone : more = 0
        · subst hnone
          exact hgoes_on _ (hpolling _)
        · rw [if_pos (by omega), if_neg (by omega)]
          exact hgoes_on _ (.bind (.sleep _) fun _ => hpolling _)
      · rw [if_pos hlast, if_pos (by omega)]
        apply Outlasts.bind_left
        intro _ _
        exact ih _

/-! ## Authorizing domains -/

variable {client : Client} {s : Session}

theorem completeChallenge_outlasts (address : Endpoint) (policy : PollPolicy) (more : Nat)
    (challenge : PendingChallenge) :
    Outlasts s
      (completeChallenge client address (policy.withPolls (policy.maxPolls + more)) challenge)
      (completeChallenge client address policy challenge) := by
  rw [completeChallenge, completeChallenge]
  apply Outlasts.bind_left
  intro _ _
  apply Outlasts.bind_left
  intro _ _
  apply Outlasts.attempt_bind
  · rw [activateAndPoll, activateAndPoll]
    apply Outlasts.bind_left
    intro _ _
    apply Outlasts.bind_left
    intro _ _
    exact pollTimes_outlasts policy challenge _ _ more _
  · intro r
    refine .bind (.withdraw _) fun _ => ?_
    cases r with
    | ok _ => exact .pure ()
    | error e => exact .throw e
  · intro e t
    rfl
  · intro e t
    exact requests_recorded_of_none { t with registry := t.registry.remove challenge.token } rfl

/-- The configuration with another bound on the polls. -/
def Config.withPolls (config : Config) (bound : Nat) : Config :=
  { config with policy := config.policy.withPolls bound }

variable (config : Config) (more : Nat)

theorem authorizeFrom_outlasts (index : Nat) (domains : List String) :
    Outlasts s (authorizeFrom (config.withPolls (config.policy.maxPolls + more)) client index domains)
      (authorizeFrom config client index domains) := by
  induction domains generalizing index s with
  | nil => exact .refl s _
  | cons domain rest ih =>
    rw [authorizeFrom, authorizeFrom]
    refine .bind ?_ (fun _ t => ih (index + 1)) fun _ => .authorizeFrom _ client _ rest
    rw [authorizeDomain, authorizeDomain]
    apply Outlasts.bind_left
    intro challenge _
    refine .bind_right ?_ fun _ => .move rfl DomainList.advance
    exact completeChallenge_outlasts config.httpBind config.policy more challenge

theorem authorizeAndRequest_outlasts (certKey : String) :
    Outlasts s
      (authorizeAndRequest (config.withPolls (config.policy.maxPolls + more)) client certKey)
      (authorizeAndRequest config client certKey) := by
  refine .bind_right ?_ fun _ => .bind (.enter _) fun _ => .requestCertificate client certKey _
  apply Outlasts.bind_left
  intro _ _
  apply Outlasts.bind_left
  intro _ _
  exact authorizeFrom_outlasts config more 0 config.domains

theorem issue_outlasts (certKey : String) :
    Outlasts s (issue (config.withPolls (config.policy.maxPolls + more)) client certKey)
      (issue config client certKey) := by
  have hpass (t : Session) : Outlasts t
      (authorizeAndRequest (config.withPolls (config.policy.maxPolls + more)) client certKey)
      (authorizeAndRequest config client certKey) :=
    authorizeAndRequest_outlasts config more certKey
  have hlast {last : CertificateReply → Action Failure IssuedCertificate}
      (hissued : ∀ certificate, Composed true (last (.issued certificate)))
      (hunauthorized : ∀ problem, Composed true (last (.unauthorized problem)))
      (reply : CertificateReply) : Composed true (last reply) := by
    cases reply with
    | issued certificate => exact hissued certificate
    | unauthorized problem => exact hunauthorized problem
  refine (hpass s).bind (fun reply t => ?_) fun reply => ?_
  · cases reply with
    | issued certificate => exact .refl t _
    | unauthorized problem =>
      apply Outlasts.bind_left
      intro _ _
      apply Outlasts.bind_left
      intro _ _
      exact (hpass _).bind_right (hlast (fun _ => .pure _) fun _ => .throw _)
  · cases reply with
    | issued certificate => exact .pure certificate
    | unauthorized problem =>
      exact .bind (.log _ _ _) fun _ => .bind (.mark fun g => { g with authorized := true })
        fun _ => .bind (.authorizeAndRequest _ client certKey)
          (hlast (fun _ => .pure _) fun _ => .throw _)

theorem runWith_outlasts (isNew : Bool) (certKey : String) :
    Outlasts s (runWith (config.withPolls (config.policy.maxPolls + more)) client isNew certKey)
      (runWith config client isNew certKey) := by
  have hfiles (storage : Storage) (primary : String) (certificate : IssuedCertificate) :
      Composed true (do
        let written ← writeCertificate storage primary certKey certificate
        enter .intermediateFetch
        let intermediatePath ← fetchIntermediate storage certificate.issuerUrl
        enter .done
        log .info "Certificate issued"
          [("certificate", .shown written.2.text), ("key", .shown written.1.text),
            ("intermediate", .shown intermediatePath.text)]
        return (⟨written.1, written.2, intermediatePath⟩ : IssuedFiles)) :=
    .bind (.writeCertificate _ _ _ _) fun _ => .bind (.enter _) fun _ =>
      .bind (.fetchIntermediate _ _) fun _ => .bind (.enter _) fun _ =>
        .bind (.log _ _ _) fun _ => .pure _
  have hissue (t : Session) : Outlasts t
      (issue (config.withPolls (config.policy.maxPolls + more)) client certKey >>= _)
      (issue config client certKey >>= _) :=
    (issue_outlasts config more certKey).bind_right
      (hfiles ⟨config.destination⟩ (config.domains.headD ""))
  apply Outlasts.bind_left
  intro _ _
  apply Outlasts.bind_left
  intro _ _
  cases isNew with
  | true =>
    apply Outlasts.bind_left
    intro _ _
    exact hissue _
  | false => exact hissue _

/-! ## The run -/

theorem run_outlasts (keys : KeySupply) :
    Outlasts s (run (config.withPolls (config.policy.maxPolls + more)) keys) (run config keys) := by
  apply Outlasts.bind_left
  intro _ _
  apply Outlasts.bind_left
  intro (account, isNew) _
  apply Outlasts.bind_left
  intro _ _
  dsimp only [Config.withPolls]
  cases keys.certificate config.certKeyBits with
  | error e => exact .refl _ _
  | ok certKey => exact runWith_outlasts config more isNew certKey

/-- A run with a bound on the polls, and the one with a greater bound. -/
structure RunsOn (config : Config) (keys : KeySupply) (s : Session) (bound : Nat) : Prop where
  /-- A run that does not give up is the same in all respects: what it sends, the phases it enters,
  its pauses, the files it leaves and its outcome. -/
  same : (∀ domain attempts,
      s.outcome (run config keys) ≠ .error (.challengeTimeout domain attempts)) →
    run (config.withPolls bound) keys s = run config keys s
  /-- What a run has sent that gives up is what the other one sends first. -/
  further : ∀ domain attempts,
    s.outcome (run config keys) = .error (.challengeTimeout domain attempts) →
      (s.after (run config keys)).requests
        <+: (s.after (run (config.withPolls bound) keys)).requests

/-- No harm is done by raising the bound on the polls. -/
theorem run_patient (config : Config) (keys : KeySupply) (s : Session) (bound : Nat)
    (h : config.policy.maxPolls ≤ bound) : RunsOn config keys s bound := by
  obtain ⟨more, rfl⟩ := Nat.exists_eq_add_of_le h
  have hruns := @run_outlasts s config more keys
  constructor
  · intro hends
    cases hruns with
    | same hsame => exact hsame
    | further hgives _ =>
      generalize ho : s.outcome (run config keys) = r at hgives
      cases hgives with
      | timeout domain attempts => exact absurd ho (hends domain attempts)
  · intro domain attempts _
    cases hruns with
    | same hsame =>
      have hafter : s.after (run (config.withPolls (config.policy.maxPolls + more)) keys)
          = s.after (run config keys) := by
        unfold after
        rw [hsame]
      exact hafter ▸ List.prefix_rfl
    | further _ hsent => exact hsent

/-- Two polls are made for the first challenge: a run that may make as many beside one that may make
three, and a run that may make one beside one that may make two. -/
theorem run_patient_twoDomains :
    let config := Run.twoDomains.withPolls 1
    let s := Run.obliging []
    s.outcome (run Run.twoDomains Run.prothKeys) = .ok (Run.files Run.twoDomains)
      ∧ Run.twoDomains.policy.maxPolls ≤ 3 ∧ RunsOn Run.twoDomains Run.prothKeys s 3
      ∧ config.policy.maxPolls ≤ 2 ∧ RunsOn config Run.prothKeys s 2 :=
  ⟨Run.run_twoDomains_succeeds [], by decide, run_patient _ _ _ _ (by decide),
    by decide, run_patient _ _ _ _ (by decide)⟩

end Acme
