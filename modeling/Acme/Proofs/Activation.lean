import Acme.Proofs.Polling
import Acme.Proofs.Run.Success
import Acme.Proofs.Session.Sent

/-!
# Activating a challenge

Only polling decides a challenge: what the CA answers when it is activated does not count, and no
failure to activate it is fatal but the lack of a nonce (`only_polling_decides`).
-/

namespace Acme

open Session

/-- The request that a challenge is activated with. -/
def Client.activation (client : Client) (challenge : PendingChallenge) :
    Action RequestError Http.Reply :=
  client.postSigned challenge.uri
    (.challengeResponse (client.account.keyAuthorization challenge.token))

variable {client : Client} {address : Endpoint} {policy : PollPolicy} {challenge : PendingChallenge}
  {s s' t : Session}

/-! ## What polls rest on -/

theorem replyAfter_eq (s : Session) (count : Nat) (request : Http.Request) :
    s.replyAfter count request
      = ((s.answers.map Answer.outcome)[count]?).getD (.error (s.afterwards request)) := by
  unfold replyAfter
  rw [List.getElem?_map]
  cases s.answers[count]? <;> rfl

theorem filterMap_intersperse {α β : Type} {f : α → Option β} {separator : α}
    (h : f separator = none) (xs : List α) :
    (xs.intersperse separator).filterMap f = xs.filterMap f := by
  induction xs with
  | nil => rfl
  | cons x xs ih =>
    cases xs with
    | nil => rfl
    | cons y xs =>
      rw [List.intersperse_cons_cons]
      cases hx : f x with
      | none =>
        rw [List.filterMap_cons_none hx, List.filterMap_cons_none hx, List.filterMap_cons_none h, ih]
      | some z =>
        rw [List.filterMap_cons_some hx, List.filterMap_cons_some hx, List.filterMap_cons_none h, ih]

theorem Polled.requests_eq {xs : List Exchange} (h : Polled policy challenge s xs s') :
    s'.requests = s.requests ++ List.replicate xs.length challenge.query := by
  have hpause : (Event.slept policy.intervalMs).exchange? = none := rfl
  have hself : Event.exchange? ∘ Exchange.event = some := rfl
  have hqueries : xs.map Exchange.request = List.replicate xs.length challenge.query := by
    rw [List.eq_replicate_iff, List.length_map]
    refine ⟨rfl, ?_⟩
    intro request hrequest
    obtain ⟨x, hx, rfl⟩ := List.mem_map.1 hrequest
    exact h.requests x hx
  rw [Session.requests_eq, Session.requests_eq, exchanges, exchanges, h.course,
    List.filterMap_append, filterMap_intersperse hpause, List.filterMap_map, hself,
    List.filterMap_some, List.map_append, hqueries]

/-- Polling sends the same request as often as the replies make it. -/
theorem exists_sent_poll (policy : PollPolicy) (challenge : PendingChallenge) (s : Session) :
    ∃ count, s.sent (poll policy challenge) = List.replicate count challenge.query
      ∧ Concludes challenge.domain policy.maxPolls (s.replyAfter · challenge.query) policy.maxPolls
        count (s.outcome (poll policy challenge)) := by
  obtain ⟨xs, hpolled, hconcludes⟩ := pollTimes_polls policy challenge policy.maxPolls s
  exact ⟨xs.length, sent_of_requests hpolled.requests_eq, hconcludes⟩

/-- The replies to come determine what is sent by polling, and what it comes to. -/
theorem poll_congr (policy : PollPolicy) (challenge : PendingChallenge)
    (hoffers : s.answers.map Answer.outcome = s'.answers.map Answer.outcome)
    (hafterwards : s.afterwards = s'.afterwards) :
    s.outcome (poll policy challenge) = s'.outcome (poll policy challenge)
      ∧ s.sent (poll policy challenge) = s'.sent (poll policy challenge) := by
  obtain ⟨count, hsent, hconcludes⟩ := exists_sent_poll policy challenge s
  obtain ⟨count', hsent', hconcludes'⟩ := exists_sent_poll policy challenge s'
  have hreplies : (s.replyAfter · challenge.query) = (s'.replyAfter · challenge.query) := by
    funext count
    rw [replyAfter_eq, replyAfter_eq, hoffers, hafterwards]
  rw [hreplies] at hconcludes
  obtain ⟨hcount, hresult⟩ := hconcludes.unique hconcludes'
  rw [hsent, hsent', hcount]
  exact ⟨hresult, rfl⟩

theorem gets_poll (s : Session) : s.gets (poll policy challenge) = s.sent (poll policy challenge) := by
  obtain ⟨count, hsent, _⟩ := exists_sent_poll policy challenge s
  unfold gets
  rw [hsent, List.filter_eq_self]
  intro request hrequest
  rw [List.eq_of_mem_replicate hrequest]
  rfl

theorem sent_poll_ne_nil (s : Session) (h : 0 < policy.maxPolls) :
    s.sent (poll policy challenge) ≠ [] := by
  obtain ⟨count, hsent, hconcludes⟩ := exists_sent_poll policy challenge s
  rw [hsent]
  intro hnil
  obtain rfl : count = 0 := (List.replicate_eq_nil_iff _).1 hnil
  obtain ⟨remaining, hremaining⟩ := Nat.exists_eq_succ_of_ne_zero (Nat.ne_of_gt h)
  rw [hremaining] at hconcludes
  exact absurd hconcludes.count_pos (Nat.lt_irrefl 0)

/-! ## What activation sends -/

theorem gets_activation (client : Client) (challenge : PendingChallenge) (s : Session) :
    s.gets (client.activation challenge) = [] := by
  obtain ⟨t, hask, _, hadds, hstep⟩ := client.postSigned_spec s challenge.uri
    (.challengeResponse (client.account.keyAuthorization challenge.token))
  have hsent : s.sent (client.activation challenge) = t.exchanges.map Exchange.request := by
    apply sent_of_requests
    have hself : Event.exchange? ∘ Exchange.event = some := rfl
    rw [Client.activation, Session.requests_eq, Session.requests_eq, exchanges, exchanges,
      hadds.course, List.filterMap_append, List.filterMap_map, hself, List.filterMap_some,
      List.map_append]
  unfold gets
  rw [hsent, List.filter_eq_nil_iff]
  intro request hrequest
  obtain ⟨x, hx, rfl⟩ := List.mem_map.1 hrequest
  rw [Turn.exchanges, List.mem_append, Option.mem_toList, Option.mem_toList] at hx
  rcases hx with hrefill | hsigned
  · rw [hstep.refill_request hrefill]
    exact Bool.false_ne_true
  · have hpost := (hstep.sent_spec hsigned).1
    rw [hask] at hpost
    rw [hpost.1]
    decide

/-- The session goes on as after another one, in which the same has been sent. -/
structure GoesOn (s s' : Session) : Prop where
  basis : s.basis = s'.basis
  requests : s.requests = s'.requests

theorem goesOn_logged (s : Session) (entry : Log.Entry) : GoesOn (s.recorded (.logged entry)) s :=
  ⟨rfl, requests_recorded_of_none s rfl⟩

/-- What is done with the answer to an activation: only the lack of a nonce is fatal. -/
theorem activate_of_noNonce {reason : String}
    (h : s.outcome (client.activation challenge) = .error (.noNonce reason)) :
    s.outcome (activate client challenge) = .error (.noNonce reason)
      ∧ s.after (activate client challenge) = s.after (client.activation challenge) := by
  have hresult : s.outcome (attempt (client.activation challenge) : Action Failure _)
      = .ok (.error (.noNonce reason)) := by
    rw [outcome_attempt, h]
  unfold Client.activation at h hresult ⊢
  unfold activate
  rw [outcome_bind_of_ok _ hresult, after_bind_of_ok _ hresult, after_attempt]
  exact ⟨rfl, rfl⟩

theorem activate_of_else
    (h : ∀ reason, s.outcome (client.activation challenge) ≠ .error (.noNonce reason)) :
    s.outcome (activate client challenge) = .ok ()
      ∧ GoesOn (s.after (activate client challenge)) (s.after (client.activation challenge)) := by
  generalize hr : s.outcome (client.activation challenge) = r at h
  have hresult : s.outcome (attempt (client.activation challenge) : Action Failure _) = .ok r := by
    rw [outcome_attempt, hr]
  unfold Client.activation at hresult ⊢
  unfold activate
  rw [outcome_bind_of_ok _ hresult, after_bind_of_ok _ hresult, after_attempt]
  match r with
  | .ok reply =>
    dsimp only
    split
    · exact ⟨rfl, goesOn_logged _ _⟩
    · exact ⟨rfl, rfl, rfl⟩
  | .error (.noNonce reason) => exact absurd rfl (h reason)
  | .error (.transport e) => exact ⟨rfl, goesOn_logged _ _⟩
  | .error (.signing reason) => exact ⟨rfl, goesOn_logged _ _⟩

theorem goesOn_awaitServed (s : Session) (token : String) :
    GoesOn (s.after (awaitServed token : Action Failure Unit)) s := by
  obtain ⟨_, hbasis, hdealings⟩ := awaitServed_spec (ε := Failure) s token
  refine ⟨hbasis, ?_⟩
  rw [requests_of_dealings, requests_of_dealings, hdealings, List.filterMap_append]
  simp [Event.exchange?]

theorem GoesOn.trans {s s' s'' : Session} (h : GoesOn s s') (h' : GoesOn s' s'') : GoesOn s s'' :=
  ⟨h.basis.trans h'.basis, h.requests.trans h'.requests⟩

/-! ## Activation and polls -/

theorem activateAndPoll_of_noNonce (policy : PollPolicy) {reason : String}
    (h : s.outcome (client.activation challenge) = .error (.noNonce reason)) :
    s.outcome (activateAndPoll client policy challenge) = .error (.noNonce reason)
      ∧ s.sent (activateAndPoll client policy challenge)
        = s.sent (client.activation challenge) := by
  obtain ⟨houtcome, hafter⟩ := activate_of_noNonce h
  unfold activateAndPoll
  rw [outcome_bind_of_error _ houtcome, sent_bind_of_error houtcome]
  unfold sent
  rw [hafter]
  exact ⟨rfl, rfl⟩

theorem activateAndPoll_of_else (policy : PollPolicy)
    (h : ∀ reason, s.outcome (client.activation challenge) ≠ .error (.noNonce reason)) :
    let t := s.after (client.activation challenge)
    s.outcome (activateAndPoll client policy challenge) = t.outcome (poll policy challenge)
      ∧ s.sent (activateAndPoll client policy challenge)
        = s.sent (client.activation challenge) ++ t.sent (poll policy challenge) := by
  intro t
  obtain ⟨houtcome, hactivated⟩ := activate_of_else h
  let u := (s.after (activate client challenge)).after (awaitServed challenge.token : Action Failure _)
  have hgoes : GoesOn u t := (goesOn_awaitServed _ _).trans hactivated
  have hawaited : (s.after (activate client challenge)).outcome
      (awaitServed challenge.token : Action Failure _) = .ok () :=
    (awaitServed_spec _ _).1
  have hcomposed : Composed false (poll policy challenge) := .pollTimes policy challenge _
  have hsame : InStep (poll policy challenge) u t := hcomposed.inStep hgoes.basis
  have hactivation : Composed false (client.activation challenge) := .postSigned client _ _
  unfold activateAndPoll
  rw [outcome_bind_of_ok _ houtcome, outcome_bind_of_ok _ hawaited]
  refine ⟨hsame.outcome, ?_⟩
  apply sent_of_requests
  rw [after_bind_of_ok _ houtcome, after_bind_of_ok _ hawaited]
  show (u.after (poll policy challenge)).requests = _
  rw [hcomposed.requests_eq, hgoes.requests, hsame.sent_eq, hactivation.requests_eq,
    List.append_assoc]

/-- Whatever comes of an action, it is what remains when a token has been withdrawn after it. -/
theorem withdrawn_after (a : Action Failure Unit) (token : String) (s : Session) :
    let ended : Action Failure Unit := do
      let result ← attempt a
      withdraw token
      match result with
      | .ok () => return
      | .error failure => throw failure
    s.outcome ended = s.outcome a ∧ (s.after ended).requests = (s.after a).requests := by
  have hresult : s.outcome (attempt a : Action Failure _) = .ok (s.outcome a) := outcome_attempt
  have hnone : (Event.withdrawn token).exchange? = none := rfl
  have hrest (u : Session) :=
    requests_recorded_of_none { u with registry := u.registry.remove token } hnone
  dsimp only
  rw [outcome_bind_of_ok _ hresult, after_bind_of_ok _ hresult, after_attempt]
  cases s.outcome a with
  | ok _ => exact ⟨rfl, hrest _⟩
  | error failure => exact ⟨rfl, hrest _⟩

/-- Serving a challenge changes nothing in what is asked for, nor in what comes of it. -/
theorem completeChallenge_of_free (client : Client) (address : Endpoint) (policy : PollPolicy)
    (challenge : PendingChallenge) (h : s.world.hindrance = none) :
    s.outcome (completeChallenge client address policy challenge)
        = s.outcome (activateAndPoll client policy challenge)
      ∧ s.sent (completeChallenge client address policy challenge)
        = s.sent (activateAndPoll client policy challenge) := by
  obtain ⟨hlistens, hbasis, hdealings⟩ := listen_spec s address
  rw [h] at hlistens
  have hlisten : s.outcome (orFail (listen address) (Failure.responderBind address)) = .ok () := by
    rw [outcome_orFail, hlistens]
    rfl
  let offering : Action Failure Unit :=
    offer challenge.token (client.account.keyAuthorization challenge.token)
  let t := (s.after (listen address)).after offering
  have hoffered : (s.after (listen address)).outcome offering = .ok () := rfl
  have hrequests : t.requests = s.requests := by
    have hlistened : (s.after (listen address)).requests = s.requests := by
      rw [requests_of_dealings, requests_of_dealings, hdealings]
    rw [← hlistened]
    exact requests_recorded_of_none { s.after (listen address) with registry := _ } rfl
  have hcomposed : Composed false (activateAndPoll client policy challenge) :=
    .bind (.activate client challenge) fun _ => .bind (.awaitServed _) fun _ =>
      .pollTimes policy challenge _
  have hsame : InStep (activateAndPoll client policy challenge) t s := hcomposed.inStep hbasis
  obtain ⟨houtcome, hended⟩ :=
    withdrawn_after (activateAndPoll client policy challenge) challenge.token t
  unfold completeChallenge
  rw [outcome_bind_of_ok _ hlisten, after_orFail, outcome_bind_of_ok _ hoffered]
  refine ⟨houtcome.trans hsame.outcome, ?_⟩
  apply sent_of_requests
  rw [after_bind_of_ok _ hlisten, after_orFail, after_bind_of_ok _ hoffered]
  refine hended.trans ?_
  rw [hcomposed.requests_eq, hrequests, hsame.sent_eq]

/-! ## How activation ends -/

/-- The signed request that a challenge is activated with, if it can be signed. -/
def Client.activationRequest (client : Client) (challenge : PendingChallenge) (nonce : String) :
    Except RequestError Http.Request :=
  client.account.signedRequest nonce challenge.uri
    (.challengeResponse (client.account.keyAuthorization challenge.token))

theorem activation_of_held (client : Client) (challenge : PendingChallenge) {nonce : String}
    (hnonce : s.nonce = some nonce) :
    client.activation challenge s =
      (match client.activationRequest challenge nonce with
        | .error e => throw e
        | .ok request => orFail (Client.send request) RequestError.transport :
        Action RequestError Http.Reply) { s with nonce := none } := by
  have htaken := client.takeNonce_of_held s hnonce
  unfold Client.activation Client.postSigned
  rw [bind_of_ok _ (outcome_of_ok htaken), after_of_ok htaken]
  rfl

/-- The request is sent, and one reply is taken for it, whichever it is. -/
theorem activation_of_signed {nonce : String} {request : Http.Request}
    (hnonce : s.nonce = some nonce)
    (hrequest : client.activationRequest challenge nonce = .ok request) :
    ∃ x, Takes s x (s.after (client.activation challenge))
      ∧ s.outcome (client.activation challenge) = x.result := by
  obtain ⟨x, _, houtcome, htakes⟩ := Client.send_takes { s with nonce := none } request
  have hrun := activation_of_held client challenge hnonce
  rw [hrequest] at hrun
  refine ⟨x, ?_, ?_⟩
  · unfold after
    rw [hrun]
    show Takes s x (({ s with nonce := none } : Session).after (orFail _ _))
    rw [after_orFail]
    exact ⟨htakes.course, htakes.answers, htakes.afterwards, htakes.outcome⟩
  · unfold outcome
    rw [hrun]
    show ({ s with nonce := none } : Session).outcome (orFail _ _) = _
    rw [outcome_orFail, houtcome]
    rfl

theorem activation_of_unsigned {nonce : String} {e : RequestError} (hnonce : s.nonce = some nonce)
    (hrequest : client.activationRequest challenge nonce = .error e) :
    s.outcome (client.activation challenge) = .error e
      ∧ s.after (client.activation challenge) = { s with nonce := none } := by
  have hrun := activation_of_held client challenge hnonce
  rw [hrequest] at hrun
  exact ⟨outcome_of_error hrun, after_of_error hrun⟩

/-- No nonce could be asked for. -/
theorem activation_of_unfilled (challenge : PendingChallenge) {e : Http.TransportError}
    (hnonce : s.nonce = none)
    (hrefill : s.replyAfter 0 client.nonceRequest = .error e) :
    s.outcome (client.activation challenge) = .error (.transport e)
      ∧ ∃ x, Takes s x (s.after (client.activation challenge)) := by
  have hempty : s.outcome (Client.takeHeld : Action RequestError _) = .ok none := by
    rw [← hnonce]
    rfl
  have hsame : s.after (Client.takeHeld : Action RequestError (Option String)) = s := by
    show ({ s with nonce := none } : Session) = s
    rw [← hnonce]
  obtain ⟨x, hx, houtcome, htakes⟩ := Client.send_takes s client.nonceRequest
  have hfailed : s.outcome (orFail (Client.send client.nonceRequest) RequestError.transport)
      = .error (.transport e) := by
    rw [outcome_orFail, houtcome, htakes.outcome, hx, hrefill]
    rfl
  have htaken : s.outcome client.takeNonce = .error (.transport e)
      ∧ s.after client.takeNonce = s.after (Client.send client.nonceRequest) := by
    unfold Client.takeNonce
    rw [outcome_bind_of_ok _ hempty, after_bind_of_ok _ hempty, hsame]
    dsimp only
    rw [outcome_bind_of_error _ hfailed, after_bind_of_error _ hfailed, after_orFail]
    exact ⟨rfl, rfl⟩
  unfold Client.activation Client.postSigned
  rw [outcome_bind_of_error _ htaken.1, after_bind_of_error _ htaken.1, htaken.2]
  exact ⟨rfl, x, htakes⟩

/-! ## Only polling decides -/

/-- Completing a challenge in one session comes to the same as polling it in another one, and takes
the same requests with method GET. -/
def CompletesAs (client : Client) (address : Endpoint) (policy : PollPolicy)
    (challenge : PendingChallenge) (s t : Session) : Prop :=
  s.outcome (completeChallenge client address policy challenge) = t.outcome (poll policy challenge)
    ∧ s.gets (completeChallenge client address policy challenge) = t.gets (poll policy challenge)

theorem completesAs_of_else (address : Endpoint) (policy : PollPolicy)
    (h : s.world.hindrance = none)
    (helse : ∀ reason, s.outcome (client.activation challenge) ≠ .error (.noNonce reason)) :
    CompletesAs client address policy challenge s (s.after (client.activation challenge)) := by
  obtain ⟨houtcome, hsent⟩ := completeChallenge_of_free client address policy challenge h
  obtain ⟨hpolled, hrequests⟩ := activateAndPoll_of_else policy helse
  refine ⟨houtcome.trans hpolled, ?_⟩
  have hactivation := gets_activation client challenge s
  unfold gets at hactivation ⊢
  rw [hsent, hrequests, List.filter_append, hactivation, List.nil_append]

theorem CompletesAs.congr {t' : Session} (h : CompletesAs client address policy challenge s t)
    (hoffers : t.answers.map Answer.outcome = t'.answers.map Answer.outcome)
    (hafterwards : t.afterwards = t'.afterwards) :
    CompletesAs client address policy challenge s t' := by
  obtain ⟨houtcome, hsent⟩ := poll_congr policy challenge hoffers hafterwards
  refine ⟨h.1.trans houtcome, h.2.trans ?_⟩
  rw [gets_poll, gets_poll, hsent]

theorem CompletesAs.of_takes {x : Exchange}
    (h : CompletesAs client address policy challenge s (s.after (client.activation challenge)))
    (htakes : Takes s x (s.after (client.activation challenge))) :
    CompletesAs client address policy challenge s { s with answers := s.answers.tail } :=
  h.congr (congrArg _ htakes.answers) htakes.afterwards

/-- What counts when a challenge is completed. -/
structure PollingAlone (client : Client) (address : Endpoint) (policy : PollPolicy)
    (challenge : PendingChallenge) (s : Session) : Prop where
  /-- Only the lack of a nonce is fatal. -/
  nonceless : ∀ reason, s.outcome (client.activation challenge) = .error (.noNonce reason) →
    s.outcome (completeChallenge client address policy challenge) = .error (.noNonce reason)
      ∧ (Failure.noNonce reason).exitCode = 4
      ∧ s.gets (completeChallenge client address policy challenge) = []
  polled : (∀ reason, s.outcome (client.activation challenge) ≠ .error (.noNonce reason)) →
    CompletesAs client address policy challenge s (s.after (client.activation challenge))
      ∧ (0 < policy.maxPolls → s.gets (completeChallenge client address policy challenge) ≠ [])
  /-- The polls get the replies after the one to the activation, whatever that is. -/
  answered : ∀ nonce request, s.nonce = some nonce →
    client.activationRequest challenge nonce = .ok request →
      CompletesAs client address policy challenge s { s with answers := s.answers.tail }
  alike : ∀ nonce request answer, s.nonce = some nonce →
    client.activationRequest challenge nonce = .ok request →
      let other := { s with answers := answer :: s.answers.tail }
      other.outcome (completeChallenge client address policy challenge)
          = s.outcome (completeChallenge client address policy challenge)
        ∧ other.gets (completeChallenge client address policy challenge)
          = s.gets (completeChallenge client address policy challenge)
  /-- When the activation cannot be signed, the polls get all replies. -/
  unsigned : ∀ nonce reason, s.nonce = some nonce →
    client.activationRequest challenge nonce = .error (.signing reason) →
      CompletesAs client address policy challenge s s
  /-- When no nonce can be asked for, the polls get the replies after that. -/
  unfilled : ∀ e, s.nonce = none → s.replyAfter 0 client.nonceRequest = .error e →
    CompletesAs client address policy challenge s { s with answers := s.answers.tail }

theorem completesAs_of_signed (address : Endpoint) (policy : PollPolicy) {nonce : String}
    {request : Http.Request} (h : s.world.hindrance = none) (hnonce : s.nonce = some nonce)
    (hrequest : client.activationRequest challenge nonce = .ok request) :
    CompletesAs client address policy challenge s { s with answers := s.answers.tail } := by
  obtain ⟨x, htakes, houtcome⟩ := activation_of_signed hnonce hrequest
  refine (completesAs_of_else address policy h ?_).of_takes htakes
  intro reason
  rw [houtcome, Exchange.result]
  intro hfailed
  cases hx : x.outcome with
  | ok reply =>
    rw [hx] at hfailed
    cases hfailed
  | error e =>
    rw [hx] at hfailed
    cases hfailed

/-- A challenge is decided by polling it, whatever comes of its activation, unless there is no nonce
to activate it with. -/
theorem only_polling_decides (client : Client) (address : Endpoint) (policy : PollPolicy)
    (challenge : PendingChallenge) (s : Session) (h : s.world.hindrance = none) :
    PollingAlone client address policy challenge s where
  nonceless reason hreason := by
    obtain ⟨houtcome, hsent⟩ := completeChallenge_of_free client address policy challenge h
    obtain ⟨hfailed, hactivation⟩ := activateAndPoll_of_noNonce policy hreason
    refine ⟨houtcome.trans hfailed, rfl, ?_⟩
    have hnone := gets_activation client challenge s
    unfold gets at hnone ⊢
    rw [hsent, hactivation, hnone]
  polled helse := by
    have hcompletes := completesAs_of_else address policy h helse
    refine ⟨hcompletes, ?_⟩
    intro hpolls
    rw [hcompletes.2, gets_poll]
    exact sent_poll_ne_nil _ hpolls
  answered nonce request hnonce hrequest := completesAs_of_signed address policy h hnonce hrequest
  alike nonce request answer hnonce hrequest := by
    intro other
    obtain ⟨houtcome, hgets⟩ := completesAs_of_signed address policy h hnonce hrequest
    have hother : other.world.hindrance = none := h
    obtain ⟨houtcome', hgets'⟩ := completesAs_of_signed address policy hother hnonce hrequest
    exact ⟨houtcome'.trans houtcome.symm, hgets'.trans hgets.symm⟩
  unsigned nonce reason hnonce hrequest := by
    obtain ⟨houtcome, hafter⟩ := activation_of_unsigned hnonce hrequest
    have hcompletes := completesAs_of_else address policy h fun other => by
      rw [houtcome]
      exact nofun
    rw [hafter] at hcompletes
    exact hcompletes.congr rfl rfl
  unfilled e hnonce hrefill := by
    obtain ⟨houtcome, x, htakes⟩ := activation_of_unfilled challenge hnonce hrefill
    refine (completesAs_of_else address policy h ?_).of_takes htakes
    intro reason
    rw [houtcome]
    exact nofun

/-- The activation is refused, and the challenge is valid at the second poll. -/
theorem only_polling_decides_of_refused :
    let client : Client := ⟨Run.twoDomains.endpoints, ⟨Rsa.PrivateKey.prothKey⟩⟩
    let challenge : PendingChallenge := ⟨"a.test", "t0", Run.twoDomains.caUrl ++ "/t0"⟩
    let s : Session :=
      { nonce := some "nonce0"
        answers := [Run.handing 1 403 [], Run.handing 2 200 (Run.stateBody .pending),
          Run.handing 3 200 (Run.stateBody .valid)].map fun reply => { outcome := .ok reply } }
    s.world.hindrance = none
      ∧ (∃ request, client.activationRequest challenge "nonce0" = .ok request)
      ∧ s.outcome (completeChallenge client Run.twoDomains.httpBind Run.twoDomains.policy challenge)
        = .ok ()
      ∧ PollingAlone client Run.twoDomains.httpBind Run.twoDomains.policy challenge s := by
  intro client challenge s
  have hsigns : ∀ message, client.account.key.CanSign message := Rsa.PrivateKey.canSign_prothKey
  have hready : Ready true ([Run.handing 1 403 [], Run.handing 2 200 (Run.stateBody .pending),
      Run.handing 3 200 (Run.stateBody .valid)] ++ []) {} s.world s.nonce :=
    ⟨rfl, by decide +kernel, rfl, fun _ => rfl, rfl, fun _ => ⟨_, rfl, by decide⟩⟩
  have hpending : PollVerdict.ofReply "a.test" (Run.handing 2 200 (Run.stateBody .pending))
      = .pending := by decide +kernel
  have hvalid : PollVerdict.ofReply "a.test" (Run.handing 3 200 (Run.stateBody .valid))
      = .valid := by decide +kernel
  have happroves : Approves challenge.domain Run.twoDomains.policy.maxPolls
      [Run.handing 2 200 (Run.stateBody .pending), Run.handing 3 200 (Run.stateBody .valid)] :=
    .pending hpending (.valid hvalid)
  have hcompleted :=
    completeChallenge_achieves hsigns Run.twoDomains.httpBind happroves s hready
  refine ⟨rfl, ?_, hcompleted.1, only_polling_decides _ _ _ _ _ rfl⟩
  exact signedRequest_of_canSign _ (by decide) (hsigns _)

end Acme
