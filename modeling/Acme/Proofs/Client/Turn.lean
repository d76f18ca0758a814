import Acme.Proofs.Envelope
import Acme.Proofs.Session.Course

/-!
# Turns of a conversation

The conversation with the CA goes turn by turn. In a turn something is asked for; where that needs a
nonce and the slot is empty, the slot is refilled first. `Turn.Step` says what a turn is made of and
what it leaves in the slot, and `Conversation` follows the slot from turn to turn.
-/

namespace Acme

/-! ## Turns -/

/-- What is asked of the CA. -/
inductive Ask
  | nonce
  | plain (url : String)
  | signed (url : String) (payload : Payload)

/-- Something is asked of the CA. -/
structure Turn where
  ask : Ask
  /-- The request for a nonce to sign with. -/
  refill : Option Exchange := none
  /-- The request itself, if it was sent. -/
  sent : Option Exchange
  result : Except RequestError Http.Reply

def Turn.exchanges (t : Turn) : List Exchange :=
  t.refill.toList ++ t.sent.toList

namespace Client

/-- The request for something that needs no signature. -/
def request? (client : Client) : Ask → Option Http.Request
  | .nonce => some client.nonceRequest
  | .plain url => some { method := .get, url := url }
  | .signed _ _ => none

/-- What comes of a payload that is signed with a nonce: the request if it is sent, its result, and
what is in the slot afterwards. -/
inductive Signed (client : Client) (url : String) (payload : Payload) (nonce : String) :
    Option Exchange → Except RequestError Http.Reply → Option String → Prop
  | unsigned {e : RequestError} (h : client.account.signedRequest nonce url payload = .error e) :
    Signed client url payload nonce none (.error e) none
  | sent {x : Exchange} (h : client.account.signedRequest nonce url payload = .ok x.request) :
    Signed client url payload nonce (some x) x.result x.nonce?

/-- With a nonce, the key decides whether the payload is sent. -/
theorem Signed.cases_sign? {client : Client} {url : String} {payload : Payload} {nonce : String}
    {sent : Option Exchange} {result : Except RequestError Http.Reply} {held : Option String}
    (hnonce : nonce ≠ "")
    (h : client.Signed url payload nonce sent result held) :
    (client.account.key.sign? (client.account.signingInput nonce payload) = none
        ∧ sent = none ∧ result = .error (.signing CryptoError.signing.message) ∧ held = none)
      ∨ ∃ x signature, client.account.key.sign? (client.account.signingInput nonce payload)
          = some signature
        ∧ client.account.signedRequest nonce url payload = .ok x.request
        ∧ sent = some x ∧ result = x.result ∧ held = x.nonce? := by
  cases hsign : client.account.key.sign? (client.account.signingInput nonce payload) with
  | none =>
    have hunsigned := signedRequest_of_unsigned url hnonce hsign
    cases h with
    | unsigned herror =>
      rw [hunsigned] at herror
      cases herror
      exact .inl ⟨rfl, rfl, rfl, rfl⟩
    | sent hrequest =>
      rw [hunsigned] at hrequest
      cases hrequest
  | some signature =>
    obtain ⟨request, hsigned⟩ := signedRequest_of_sign? url hnonce hsign
    cases h with
    | unsigned herror =>
      rw [hsigned] at herror
      cases herror
    | @sent x hrequest => exact .inr ⟨x, signature, rfl, hrequest, rfl, rfl, rfl⟩

end Client

/-- A turn leads from what is in the slot of the nonce to what is in it afterwards. -/
inductive Turn.Step (client : Client) : Option String → Turn → Option String → Prop
  | direct {held : Option String} {ask : Ask} {x : Exchange}
    (h : client.request? ask = some x.request) :
    Step client held ⟨ask, none, some x, x.result⟩ (x.nonce?.or held)
  | held {url : String} {payload : Payload} {nonce : String} {sent : Option Exchange}
    {result : Except RequestError Http.Reply} {held : Option String}
    (h : client.Signed url payload nonce sent result held) :
    Step client (some nonce) ⟨.signed url payload, none, sent, result⟩ held
  | refilled {url : String} {payload : Payload} {nonce : String} {sent : Option Exchange}
    {result : Except RequestError Http.Reply} {held : Option String} {y : Exchange}
    (hy : y.request = client.nonceRequest) (hn : y.nonce? = some nonce)
    (h : client.Signed url payload nonce sent result held) :
    Step client none ⟨.signed url payload, some y, sent, result⟩ held
  | unfilled {url : String} {payload : Payload} {y : Exchange} {reply : Http.Reply}
    (hy : y.request = client.nonceRequest) (ho : y.outcome = .ok reply) (hn : y.nonce? = none) :
    Step client none ⟨.signed url payload, some y, none, .error (.noNonce (Client.withoutNonce reply))⟩
      none
  | unanswered {url : String} {payload : Payload} {y : Exchange} {e : Http.TransportError}
    (hy : y.request = client.nonceRequest) (ho : y.outcome = .error e) :
    Step client none ⟨.signed url payload, some y, none, .error (.transport e)⟩ none

/-! ## Conversations -/

/-- Turns lead from what is in the slot of the nonce to what is in it afterwards. -/
inductive Conversation (client : Client) : Option String → List Turn → Option String → Prop
  | nil (held : Option String) : Conversation client held [] held
  | cons {held next last : Option String} {t : Turn} {turns : List Turn}
    (step : t.Step client held next) (rest : Conversation client next turns last) :
    Conversation client held (t :: turns) last

namespace Conversation

variable {client : Client} {held next last : Option String} {turns more : List Turn}

theorem single {t : Turn} (h : t.Step client held next) : Conversation client held [t] next :=
  .cons h (.nil next)

theorem slot_of_nil (h : Conversation client held [] next) : next = held := by
  cases h with
  | nil => rfl

theorem step {t : Turn} (h : Conversation client held [t] next) : t.Step client held next := by
  cases h with
  | cons hstep hrest =>
    cases hrest with
    | nil => exact hstep

theorem append (h : Conversation client held turns next) (h' : Conversation client next more last) :
    Conversation client held (turns ++ more) last := by
  induction h with
  | nil held => exact h'
  | cons step _ ih => exact .cons step (ih h')

/-- A conversation falls into those before and after any of its turns. -/
theorem split (h : Conversation client held (turns ++ more) last) :
    ∃ next, Conversation client held turns next ∧ Conversation client next more last := by
  induction turns generalizing held with
  | nil => exact ⟨held, .nil held, h⟩
  | cons t turns ih =>
    cases h with
    | cons step rest =>
      obtain ⟨next, h1, h2⟩ := ih rest
      exact ⟨next, .cons step h1, h2⟩

end Conversation

/-- What a turn starts from is what the turns before it have left. -/
theorem Conversation.step_at {client : Client} {held last : Option String} {before after : List Turn}
    {t : Turn} (h : Conversation client held (before ++ t :: after) last) :
    ∃ next next', Conversation client held before next ∧ t.Step client next next' := by
  obtain ⟨next, hbefore, hrest⟩ := h.split
  cases hrest with
  | cons hstep _ => exact ⟨next, _, hbefore, hstep⟩

/-! ## The calls of a client -/

namespace Client

open Session

variable (client : Client) (s : Session)

/-- What is done with a reply: its nonce is kept, or the lack of one is logged. -/
theorem send_of_reply {s : Session} {request : Http.Request} {reply : Http.Reply}
    (h : s.outcome (exchange request) = .ok reply) :
    let s₁ := s.after (exchange request)
    ∃ entries, send request s
      = .ok reply ({ s₁ with nonce := reply.nonce?.or s₁.nonce }.noticed s₁.served entries) := by
  rw [send, bind_of_ok _ h]
  dsimp only
  cases hn : reply.nonce? with
  | some nonce => exact ⟨[], rfl⟩
  | none =>
    dsimp only
    split
    · exact ⟨[_], rfl⟩
    · exact ⟨[], rfl⟩

/-- Every reply goes through one place, which keeps the nonce that it hands out. -/
theorem send_spec (request : Http.Request) :
    ∃ x : Exchange, x.request = request ∧ s.outcome (send request) = x.outcome
      ∧ Adds s [x] (s.after (send request))
      ∧ (s.after (send request)).nonce = x.nonce?.or s.nonce := by
  obtain ⟨x, hx, ho, ha, hn⟩ := exchange_spec s request
  refine ⟨x, hx, ?_⟩
  cases hr : x.outcome with
  | error e =>
    rw [hr] at ho
    have hnone : x.nonce? = none := by rw [Exchange.nonce?, hr]
    rw [send, outcome_bind_of_error _ ho, after_bind_of_error _ ho, hnone]
    exact ⟨rfl, ha, hn⟩
  | ok reply =>
    rw [hr] at ho
    have hsome : x.nonce? = reply.nonce? := by rw [Exchange.nonce?, hr]
    obtain ⟨entries, hs⟩ := send_of_reply ho
    rw [outcome_of_ok hs, after_of_ok hs, hsome, ← hn]
    exact ⟨rfl, ⟨(alike_noticed _ _ _).course.trans ha.course, ha.guards, ha.phase, ha.files⟩, rfl⟩

/-- What is done once there is a nonce. -/
theorem signed_spec (url : String) (payload : Payload) (nonce : String) (h : s.nonce = none) :
    let action : Action RequestError Http.Reply :=
      match client.account.signedRequest nonce url payload with
      | .error e => throw e
      | .ok request => orFail (send request) RequestError.transport
    ∃ sent, client.Signed url payload nonce sent (s.outcome action) (s.after action).nonce
      ∧ Adds s sent.toList (s.after action) := by
  cases hr : client.account.signedRequest nonce url payload with
  | error e =>
    refine ⟨none, ?_, (Alike.refl s).adds⟩
    show client.Signed url payload nonce none (.error e) s.nonce
    rw [h]
    exact .unsigned hr
  | ok request =>
    obtain ⟨x, hx, ho, ha, hn⟩ := send_spec s request
    dsimp only
    rw [outcome_orFail, after_orFail, ho, hn, h, Option.or_none]
    exact ⟨some x, .sent (hx ▸ hr), ha⟩

theorem takeNonce_of_held {n : String} (h : s.nonce = some n) :
    client.takeNonce s = .ok n { s with nonce := none } := by
  have hheld : s.outcome (takeHeld : Action RequestError _) = .ok (some n) := by
    rw [← h]
    rfl
  rw [takeNonce, bind_of_ok _ hheld]
  rfl

/-- When the slot is empty, one request for a nonce is made, and the slot is left empty. -/
theorem takeNonce_of_empty (h : s.nonce = none) :
    ∃ y : Exchange, y.request = client.nonceRequest ∧ Adds s [y] (s.after client.takeNonce)
      ∧ (s.after client.takeNonce).nonce = none
      ∧ ((∃ n, y.nonce? = some n ∧ s.outcome client.takeNonce = .ok n)
        ∨ (∃ reply, y.outcome = .ok reply ∧ y.nonce? = none
          ∧ s.outcome client.takeNonce = .error (.noNonce (withoutNonce reply)))
        ∨ ∃ e, y.outcome = .error e ∧ s.outcome client.takeNonce = .error (.transport e)) := by
  have hempty : s.outcome (takeHeld : Action RequestError _) = .ok none := by
    rw [← h]
    rfl
  have hself : s.after (takeHeld : Action RequestError _) = s := by
    show { s with nonce := none } = s
    rw [← h]
  obtain ⟨y, hy, ho, ha, hn⟩ := send_spec s client.nonceRequest
  rw [h, Option.or_none] at hn
  refine ⟨y, hy, ?_⟩
  rw [takeNonce, outcome_bind_of_ok _ hempty, after_bind_of_ok _ hempty, hself]
  dsimp only
  cases hr : y.outcome with
  | error e =>
    have hsend : s.outcome (orFail (send client.nonceRequest) RequestError.transport)
        = .error (.transport e) := by
      rw [outcome_orFail, ho, hr]
      rfl
    have hnone : y.nonce? = none := by rw [Exchange.nonce?, hr]
    rw [outcome_bind_of_error _ hsend, after_bind_of_error _ hsend, after_orFail]
    exact ⟨ha, hn.trans hnone, .inr (.inr ⟨e, rfl, rfl⟩)⟩
  | ok reply =>
    have hsend : s.outcome (orFail (send client.nonceRequest) RequestError.transport)
        = .ok reply := by
      rw [outcome_orFail, ho, hr]
      rfl
    have htaken : (s.after (send client.nonceRequest)).outcome (takeHeld : Action RequestError _)
        = .ok y.nonce? := by
      rw [← hn]
      rfl
    rw [outcome_bind_of_ok _ hsend, after_bind_of_ok _ hsend, after_orFail,
      outcome_bind_of_ok _ htaken, after_bind_of_ok _ htaken]
    cases hyn : y.nonce? with
    | some n => exact ⟨⟨ha.course, ha.guards, ha.phase, ha.files⟩, rfl, .inl ⟨n, rfl, rfl⟩⟩
    | none => exact ⟨⟨ha.course, ha.guards, ha.phase, ha.files⟩, rfl, .inr (.inl ⟨reply, rfl, rfl, rfl⟩)⟩

theorem postSigned_spec (url : String) (payload : Payload) :
    ∃ t : Turn, t.ask = .signed url payload ∧ t.result = s.outcome (client.postSigned url payload)
      ∧ Adds s t.exchanges (s.after (client.postSigned url payload))
      ∧ t.Step client s.nonce (s.after (client.postSigned url payload)).nonce := by
  cases hs : s.nonce with
  | some n =>
    have htake := takeNonce_of_held client s hs
    obtain ⟨sent, hsigned, ha⟩ := signed_spec client { s with nonce := none } url payload n rfl
    rw [postSigned, outcome_bind_of_ok _ (outcome_of_ok htake),
      after_bind_of_ok _ (outcome_of_ok htake), after_of_ok htake]
    exact ⟨⟨.signed url payload, none, sent, _⟩, rfl, rfl, ⟨ha.course, ha.guards, ha.phase, ha.files⟩, .held hsigned⟩
  | none =>
    obtain ⟨y, hy, ha, hn, hcases⟩ := takeNonce_of_empty client s hs
    rcases hcases with ⟨n, hyn, ho⟩ | ⟨reply, hyo, hyn, ho⟩ | ⟨e, hyo, ho⟩
    · obtain ⟨sent, hsigned, ha'⟩ := signed_spec client _ url payload n hn
      rw [postSigned, outcome_bind_of_ok _ ho, after_bind_of_ok _ ho]
      exact ⟨⟨.signed url payload, some y, sent, _⟩, rfl, rfl, ha.trans ha', .refilled hy hyn hsigned⟩
    · rw [postSigned, outcome_bind_of_error _ ho, after_bind_of_error _ ho, hn]
      exact ⟨⟨.signed url payload, some y, none, _⟩, rfl, rfl, ha, .unfilled hy hyo hyn⟩
    · rw [postSigned, outcome_bind_of_error _ ho, after_bind_of_error _ ho, hn]
      exact ⟨⟨.signed url payload, some y, none, _⟩, rfl, rfl, ha, .unanswered hy hyo⟩

end Client

/-! ## What is sent in a turn -/

namespace Ask

/-- What is asked for has to be signed. -/
def isSigned : Ask → Bool
  | .signed _ _ => true
  | _ => false

def isRegistration : Ask → Bool
  | .signed _ (.newRegistration _ _) => true
  | _ => false

end Ask

/-- The request is one for what is asked. -/
def Client.Requests (client : Client) : Ask → Http.Request → Prop
  | .nonce, request => request = client.nonceRequest
  | .plain url, request => request = { method := .get, url := url }
  | .signed url payload, request => request.method = .post ∧ request.url = url
    ∧ ∃ nonce, client.account.signedRequest nonce url payload = .ok request

/-- Nothing could be sent: no nonce could be asked for, or the payload could not be signed. -/
def Turn.Prevented (client : Client) (t : Turn) : Prop :=
  (∃ y e, t.refill = some y ∧ y.outcome = .error e) ∨
    ∃ url payload nonce reason, t.ask = .signed url payload
      ∧ client.account.signedRequest nonce url payload = .error (.signing reason)

namespace Turn.Step

variable {client : Client} {held held' : Option String} {t : Turn}

theorem sent_spec (h : t.Step client held held') {x : Exchange} (hx : t.sent = some x) :
    client.Requests t.ask x.request ∧ t.result = x.result := by
  have signed {url : String} {payload : Payload} {nonce : String}
      {result : Except RequestError Http.Reply}
      (hs : client.Signed url payload nonce (some x) result held') :
      client.Requests (.signed url payload) x.request ∧ result = x.result := by
    cases hs with
    | sent hr => exact ⟨⟨method_signedRequest hr, url_signedRequest hr, nonce, hr⟩, rfl⟩
  cases h with
  | @direct _ ask y hr =>
    cases hx
    refine ⟨?_, rfl⟩
    cases ask with
    | nonce => exact (Option.some.inj hr).symm
    | plain url => exact (Option.some.inj hr).symm
    | signed url payload => cases hr
  | held hs =>
    cases hx
    exact signed hs
  | refilled hy hn hs =>
    cases hx
    exact signed hs
  | unfilled => cases hx
  | unanswered => cases hx

/-- The slot is filled before a turn if it is empty and a signature is needed. -/
theorem refill_iff (h : t.Step client held held') :
    t.refill.isSome = true ↔ held = none ∧ t.ask.isSigned = true := by
  cases h with
  | @direct _ ask _ hr =>
    refine iff_of_false Bool.false_ne_true ?_
    rintro ⟨_, hask⟩
    cases ask with
    | signed url payload => cases hr
    | _ => cases hask
  | held => exact iff_of_false Bool.false_ne_true fun h => (by cases h.1)
  | refilled => exact iff_of_true rfl ⟨rfl, rfl⟩
  | unfilled => exact iff_of_true rfl ⟨rfl, rfl⟩
  | unanswered => exact iff_of_true rfl ⟨rfl, rfl⟩

theorem refill_request (h : t.Step client held held') {y : Exchange} (hy : t.refill = some y) :
    y.request = client.nonceRequest := by
  cases h with
  | direct => cases hy
  | held => cases hy
  | refilled h =>
    cases hy
    exact h
  | unfilled h =>
    cases hy
    exact h
  | unanswered h =>
    cases hy
    exact h

theorem sent_of_not_isSigned (h : t.Step client held held') (hs : t.ask.isSigned = false) :
    t.sent ≠ none := by
  cases h with
  | direct => exact Option.some_ne_none _
  | _ => cases hs

theorem slot_of_not_isSigned (h : t.Step client held held') (hs : t.ask.isSigned = false)
    {x : Exchange} (hx : t.sent = some x) : held' = x.nonce?.or held := by
  cases h with
  | direct =>
    cases hx
    rfl
  | _ => cases hs

/-- When nothing is sent, there is no reply, and the reason is known. -/
theorem unsent_spec (h : t.Step client held held') (hs : t.sent = none) :
    ∃ e, t.result = .error e ∧ ((∀ reason, e ≠ .noNonce reason) → t.Prevented client) := by
  have unsigned {url : String} {payload : Payload} {nonce : String} {e : RequestError}
      (he : client.account.signedRequest nonce url payload = .error e)
      (hne : ∀ reason, e ≠ .noNonce reason) : ∃ reason, e = .signing reason := by
    rw [Account.signedRequest] at he
    split at he
    · cases he
      exact absurd rfl (hne _)
    · split at he
      · cases he
        exact ⟨_, rfl⟩
      · cases he
  cases h with
  | direct => cases hs
  | @held url payload nonce _ _ _ hsigned =>
    cases hsigned with
    | unsigned he =>
      refine ⟨_, rfl, fun hne => .inr ?_⟩
      obtain ⟨reason, rfl⟩ := unsigned he hne
      exact ⟨url, payload, nonce, reason, rfl, he⟩
    | sent => cases hs
  | @refilled url payload nonce _ _ _ _ _ _ hsigned =>
    cases hsigned with
    | unsigned he =>
      refine ⟨_, rfl, fun hne => .inr ?_⟩
      obtain ⟨reason, rfl⟩ := unsigned he hne
      exact ⟨url, payload, nonce, reason, rfl, he⟩
    | sent => cases hs
  | unfilled => exact ⟨_, rfl, fun hne => absurd rfl (hne _)⟩
  | @unanswered _ _ y e _ ho => exact ⟨_, rfl, fun _ => .inl ⟨y, e, rfl, ho⟩⟩

/-- A reply was received in an exchange, for what was asked. -/
theorem replied_spec (h : t.Step client held held') {reply : Http.Reply}
    (hr : t.result = .ok reply) :
    ∃ x, t.sent = some x ∧ x.outcome = .ok reply ∧ client.Requests t.ask x.request := by
  cases hsent : t.sent with
  | none =>
    obtain ⟨e, he, _⟩ := h.unsent_spec hsent
    rw [hr] at he
    cases he
  | some x =>
    obtain ⟨hrequest, hresult⟩ := h.sent_spec hsent
    exact ⟨x, rfl, Exchange.result_eq_ok_iff.1 (hresult.symm.trans hr), hrequest⟩

end Turn.Step

end Acme
