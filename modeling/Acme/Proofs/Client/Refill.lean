import Acme.Proofs.Nonce

/-!
# One refill for a signed request

What a client sends to post something, and what it keeps and gives back afterwards: the slot of the
nonce is refilled once if it was empty, the request is sent once if there is a nonce to sign it with,
and only its reply is kept (`postSigned_refills_once`).
-/

namespace Acme

open Session

/-- There was a reply, and its first field for a nonce is text that is not empty. -/
def Exchange.Hands (x : Exchange) (nonce : String) : Prop :=
  ∃ reply, x.outcome = .ok reply ∧ reply.header? "Replay-Nonce" = some nonce ∧ nonce ≠ ""

theorem Exchange.nonce?_eq_some_iff {x : Exchange} {nonce : String} :
    x.nonce? = some nonce ↔ x.Hands nonce := by
  unfold Exchange.nonce? Exchange.Hands
  cases x.outcome with
  | error e => simp
  | ok reply => simp [Http.Reply.nonce?, nonceHeader, Option.filter_eq_some_iff]

/-- The words are not those for a nonce that is empty. -/
theorem Client.withoutNonce_ne (reply : Http.Reply) :
    Client.withoutNonce reply ≠ "nonce is empty" := by
  have hwords (words : String) :
      ("directory responded with status " ++ words).toList.head? = some 'd' := by
    rw [String.toList_append]
    rfl
  intro h
  unfold Client.withoutNonce at h
  rw [String.append_assoc, String.append_assoc, String.append_assoc] at h
  have hhead := congrArg (fun words => words.toList.head?) h
  rw [hwords] at hhead
  cases hhead

namespace Turn

/-- The nonce was held before the turn, or came with the refill. -/
def Finds (held : Option String) (t : Turn) (nonce : String) : Prop :=
  held = some nonce ∨ ∃ y ∈ t.refill, y.Hands nonce

/-- In a turn something is posted, with at most one refill before it: what is sent, what is in the
slot afterwards, and what the result is. -/
structure Refills (client : Client) (url : String) (payload : Payload) (held : Option String)
    (t : Turn) (held' : Option String) : Prop where
  refilled : t.refill.isSome = true ↔ held = none
  refillRequest : ∀ y ∈ t.refill, y.request = { method := .head, url := client.endpoints.directory }
  usable : ∀ nonce, t.Finds held nonce → nonce ≠ ""
  posted : t.sent.isSome = true ↔ ∃ nonce signature, t.Finds held nonce
    ∧ client.account.key.sign? (client.account.signingInput nonce payload) = some signature
  postRequest : ∀ x ∈ t.sent, x.request.method = .post ∧ x.request.url = url
    ∧ ∃ nonce, t.Finds held nonce ∧ x.request.signedNonce? = some nonce
  slot : ∀ nonce, held' = some nonce ↔ ∃ x ∈ t.sent, x.Hands nonce
  noNonce : ∀ reason, t.result = .error (.noNonce reason) ↔ ∃ y ∈ t.refill, ∃ reply,
    y.outcome = .ok reply ∧ (∀ nonce, ¬y.Hands nonce) ∧ reason = Client.withoutNonce reply
  transport : ∀ e, t.result = .error (.transport e) ↔ ∃ x ∈ t.exchanges, x.outcome = .error e
  signing : (∃ reason, t.result = .error (.signing reason)) ↔ ∃ nonce, t.Finds held nonce
    ∧ client.account.key.sign? (client.account.signingInput nonce payload) = none
  reply : ∀ reply, t.result = .ok reply ↔ ∃ x ∈ t.sent, x.outcome = .ok reply

variable {client : Client} {url : String} {payload : Payload} {held held' : Option String}
  {nonce : String}

theorem Refills.noNonce_ne_empty {t : Turn} (h : t.Refills client url payload held held') :
    t.result ≠ .error (.noNonce "nonce is empty") := by
  intro hresult
  obtain ⟨_, _, reply, _, _, hreason⟩ := (h.noNonce _).1 hresult
  exact Client.withoutNonce_ne reply hreason.symm

/-! ## With a nonce -/

/-- There is exactly one nonce to sign with. -/
structure Supplied (client : Client) (held : Option String) (t : Turn) (nonce : String) : Prop where
  usable : nonce ≠ ""
  refilled : t.refill.isSome = true ↔ held = none
  refillRequest : ∀ y ∈ t.refill, y.request = client.nonceRequest
  answered : ∀ y ∈ t.refill, y.Hands nonce
  finds_iff : ∀ other, t.Finds held other ↔ other = nonce

namespace Supplied

theorem of_held {t : Turn} (hnonce : nonce ≠ "") (ht : t.refill = none) :
    t.Supplied client (some nonce) nonce := by
  refine ⟨hnonce, ?_, ?_, ?_, ?_⟩ <;> simp [ht, Finds, eq_comm]

theorem of_refill {t : Turn} {y : Exchange} (hy : y.request = client.nonceRequest)
    (hn : y.nonce? = some nonce) (ht : t.refill = some y) : t.Supplied client none nonce := by
  have hhands (other : String) : y.Hands other ↔ other = nonce := by
    rw [← Exchange.nonce?_eq_some_iff, hn, Option.some.injEq, eq_comm]
  refine ⟨ne_empty_of_nonce? hn, ?_, ?_, ?_, ?_⟩ <;> simp [ht, Finds, hhands, hy]

variable {t : Turn}

theorem outcome_ne_error (h : t.Supplied client held nonce) {y : Exchange} (hy : y ∈ t.refill)
    (e : Http.TransportError) : y.outcome ≠ .error e := by
  obtain ⟨reply, ho, _⟩ := h.answered y hy
  rw [ho]
  exact nofun

/-- With a nonce, whether the key can sign decides what comes of the turn. -/
theorem refills (h : t.Supplied client held nonce)
    (hs : client.Signed url payload nonce t.sent t.result held') :
    t.Refills client url payload held held' := by
  have hfaults (e : Http.TransportError) :
      (∃ x ∈ t.exchanges, x.outcome = .error e) ↔ ∃ x ∈ t.sent, x.outcome = .error e := by
    have hrefill (y : Exchange) (hy : t.refill = some y) : y.outcome ≠ .error e :=
      h.outcome_ne_error hy e
    simp only [exchanges, List.mem_append, Option.mem_toList, Option.mem_def]
    grind
  have hanswered (reason : String) : ¬∃ y ∈ t.refill, ∃ reply, y.outcome = .ok reply
      ∧ (∀ other, ¬y.Hands other) ∧ reason = Client.withoutNonce reply := by
    rintro ⟨y, hy, reply, _, hno, _⟩
    exact hno nonce (h.answered y hy)
  have husable (other : String) (hother : t.Finds held other) : other ≠ "" := by
    rw [(h.finds_iff other).1 hother]
    exact h.usable
  rcases hs.cases_sign? h.usable with ⟨hsign, hsent, hresult, rfl⟩
    | ⟨x, signature, hsign, hrequest, hsent, hresult, rfl⟩
  · exact {
      refilled := h.refilled
      refillRequest := h.refillRequest
      usable := husable
      posted := by simp [h.finds_iff, hsent, hsign]
      postRequest := by simp [hsent]
      slot := by simp [hsent]
      noNonce := fun reason => iff_of_false (by simp [hresult]) (hanswered reason)
      transport := by simp [hfaults, hsent, hresult]
      signing := by simp [h.finds_iff, hsign, hresult]
      reply := by simp [hsent, hresult] }
  · exact {
      refilled := h.refilled
      refillRequest := h.refillRequest
      usable := husable
      posted := by simp [h.finds_iff, hsent, hsign]
      postRequest := by
        rw [hsent]
        rintro _ ⟨rfl⟩
        exact ⟨method_signedRequest hrequest, url_signedRequest hrequest, nonce,
          (h.finds_iff nonce).2 rfl, signedNonce?_signedRequest hrequest⟩
      slot := by simp [hsent, Exchange.nonce?_eq_some_iff]
      noNonce := fun reason =>
        iff_of_false (by simp [hresult, Exchange.result_eq_error_iff]) (hanswered reason)
      transport := by simp [hfaults, hsent, hresult, Exchange.result_eq_error_iff]
      signing := by simp [h.finds_iff, hsign, hresult, Exchange.result_eq_error_iff]
      reply := by simp [hsent, hresult, Exchange.result_eq_ok_iff] }

end Supplied

/-! ## Without a nonce -/

/-- When the refill brings no nonce, nothing is posted. -/
theorem refills_of_unfilled {y : Exchange} {e : RequestError}
    (hy : y.request = client.nonceRequest) (hn : y.nonce? = none)
    (he : (∃ reply, y.outcome = .ok reply ∧ e = .noNonce (Client.withoutNonce reply))
      ∨ ∃ fault, y.outcome = .error fault ∧ e = .transport fault) :
    Refills client url payload none ⟨.signed url payload, some y, none, .error e⟩ none := by
  have hno (other : String) : ¬y.Hands other := by
    rw [← Exchange.nonce?_eq_some_iff, hn]
    exact nofun
  have hfinds (other : String) :
      ¬Finds none ⟨.signed url payload, some y, none, .error e⟩ other := by
    simp [Finds, hno]
  exact {
    refilled := by simp
    refillRequest := by
      rintro _ ⟨rfl⟩
      exact hy
    usable := fun other hother => absurd hother (hfinds other)
    posted := by simp [hfinds]
    postRequest := by simp
    slot := by simp
    noNonce := by
      obtain ⟨reply, ho, rfl⟩ | ⟨fault, ho, rfl⟩ := he
      · simp [ho, hno, eq_comm]
      · simp [ho]
    transport := by
      obtain ⟨reply, ho, rfl⟩ | ⟨fault, ho, rfl⟩ := he
      · simp [exchanges, ho]
      · simp [exchanges, ho]
    signing := by
      obtain ⟨reply, ho, rfl⟩ | ⟨fault, ho, rfl⟩ := he
      · simp [hfinds]
      · simp [hfinds]
    reply := by simp }

/-! ## Turns -/

theorem Step.refills {t : Turn} (h : t.Step client held held') (hheld : held ≠ some "")
    (ha : t.ask = .signed url payload) : t.Refills client url payload held held' := by
  cases h with
  | direct hrequest =>
    subst ha
    cases hrequest
  | @held _ _ nonce _ _ _ hs =>
    cases ha
    have hnonce : nonce ≠ "" := fun hempty => hheld (congrArg some hempty)
    exact (Supplied.of_held hnonce rfl).refills hs
  | refilled hy hn hs =>
    cases ha
    exact (Supplied.of_refill hy hn rfl).refills hs
  | @unfilled _ _ y reply hy ho hn =>
    cases ha
    exact refills_of_unfilled hy hn (.inl ⟨reply, ho, rfl⟩)
  | @unanswered _ _ y fault hy ho =>
    cases ha
    have hn : y.nonce? = none := by rw [Exchange.nonce?, ho]
    exact refills_of_unfilled hy hn (.inr ⟨fault, ho, rfl⟩)

end Turn

/-- Whatever a client that starts without a nonce was called for, and however the CA answers: to
post something, it asks for a nonce once if it holds none, and posts once if it then has one and
signs with it. What it holds afterwards came with the reply to what was posted. -/
theorem Client.postSigned_refills_once (client : Client) (earlier s : Session) (calls : List Call)
    (url : String) (payload : Payload) :
    let held := (client.performAll { earlier with nonce := none } calls).nonce
    let s := { s with nonce := held }
    ∃ t : Turn, t.result = s.outcome (client.postSigned url payload)
      ∧ Adds s t.exchanges (s.after (client.postSigned url payload))
      ∧ t.Refills client url payload held (s.after (client.postSigned url payload)).nonce
      ∧ t.result ≠ .error (.noNonce "nonce is empty") := by
  intro held s
  obtain ⟨turns, hc, _⟩ := client.performAll_conversation { earlier with nonce := none } calls
  have hheld : held ≠ some "" := (kept_nil.conversation hc).slot_ne_empty
  obtain ⟨t, ha, hr, hadds, hstep⟩ := client.postSigned_spec s url payload
  have hrefills := hstep.refills hheld ha
  exact ⟨t, hr, hadds, hrefills, hrefills.noNonce_ne_empty⟩

end Acme
