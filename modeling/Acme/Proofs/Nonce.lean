import Acme.Proofs.Run.Follows

/-!
# Nonces

Every signed request carries the nonce of the latest reply that handed one out, and no other request
carries the nonce of that reply. The invariant relates what is in the slot to the exchanges so far
(`Kept`); it is carried through turns, conversations and calls of a client.
-/

namespace Acme

/-! ## Exchanges and their nonces -/

/-- The nonces that signed requests carried, in order. -/
def signedNonces (xs : List Exchange) : List String :=
  xs.filterMap fun x => x.request.signedNonce?

/-- The nonces that replies handed out, in order. -/
def handedNonces (xs : List Exchange) : List String :=
  xs.filterMap Exchange.nonce?

theorem signedNonces_concat (xs : List Exchange) (x : Exchange) :
    signedNonces (xs ++ [x]) = signedNonces xs ++ x.request.signedNonce?.toList := by
  rw [signedNonces, signedNonces, List.filterMap_append]
  cases h : x.request.signedNonce? <;> simp [h]

theorem handedNonces_concat (xs : List Exchange) (x : Exchange) :
    handedNonces (xs ++ [x]) = handedNonces xs ++ x.nonce?.toList := by
  rw [handedNonces, handedNonces, List.filterMap_append]
  cases h : x.nonce? <;> simp [h]

theorem signedNonce?_of_ne_post {request : Http.Request} (h : request.method ≠ .post) :
    request.signedNonce? = none := by
  rw [Http.Request.signedNonce?, guard, if_neg h]
  rfl

/-- The latest reply with a nonce handed out this one, and nothing was posted since. -/
def Latest (nonce : String) (xs : List Exchange) : Prop :=
  ∃ earlier y between, xs = earlier ++ y :: between ∧ y.nonce? = some nonce
    ∧ ∀ z ∈ between, z.nonce? = none ∧ z.request.method ≠ .post

/-- What is posted carries the nonce of the latest reply that handed one out, and is the first to do
so. -/
def Disciplined (xs : List Exchange) : Prop :=
  ∀ before x after, xs = before ++ x :: after → x.request.method = .post →
    ∃ nonce, x.request.signedNonce? = some nonce ∧ Latest nonce before

theorem ne_empty_of_nonce? {x : Exchange} {nonce : String} (h : x.nonce? = some nonce) :
    nonce ≠ "" := by
  rw [Exchange.nonce?] at h
  split at h
  · rw [Http.Reply.nonce?, Option.filter_eq_some_iff] at h
    exact of_decide_eq_true h.2
  · cases h

theorem Latest.ne_empty {nonce : String} {xs : List Exchange} (h : Latest nonce xs) :
    nonce ≠ "" := by
  obtain ⟨_, y, _, _, hy, _⟩ := h
  exact ne_empty_of_nonce? hy

theorem latest_concat {x : Exchange} {nonce : String} (h : x.nonce? = some nonce)
    (xs : List Exchange) : Latest nonce (xs ++ [x]) :=
  ⟨xs, x, [], rfl, h, fun _ hz => absurd hz List.not_mem_nil⟩

theorem Latest.concat {nonce : String} {xs : List Exchange} (h : Latest nonce xs) {x : Exchange}
    (hx : x.nonce? = none) (hm : x.request.method ≠ .post) : Latest nonce (xs ++ [x]) := by
  obtain ⟨earlier, y, between, rfl, hy, hz⟩ := h
  refine ⟨earlier, y, between ++ [x], by rw [List.append_assoc, List.cons_append], hy, ?_⟩
  intro z hmem
  rcases List.mem_append.1 hmem with hmem | hmem
  · exact hz z hmem
  · rw [List.mem_singleton.1 hmem]
    exact ⟨hx, hm⟩

theorem disciplined_nil : Disciplined [] := by
  intro before x after h
  exact absurd h (by simp)

theorem Disciplined.concat {xs : List Exchange} (h : Disciplined xs) {x : Exchange}
    (hx : x.request.method = .post →
      ∃ nonce, x.request.signedNonce? = some nonce ∧ Latest nonce xs) :
    Disciplined (xs ++ [x]) := by
  intro before y after heq hm
  rcases List.eq_nil_or_concat after with rfl | ⟨after', z, rfl⟩
  · obtain ⟨rfl, he⟩ := List.append_inj' heq rfl
    cases he
    exact hx hm
  · rw [List.concat_eq_append, ← List.cons_append, ← List.append_assoc] at heq
    obtain ⟨rfl, _⟩ := List.append_inj' heq rfl
    exact h before y after' rfl hm

/-! ## The slot -/

/-- What is in the slot after some exchanges is a nonce that may be used. -/
structure Kept (xs : List Exchange) (held : Option String) : Prop where
  disciplined : Disciplined xs
  latest : ∀ nonce, held = some nonce → Latest nonce xs
  counted : (signedNonces xs ++ held.toList).Sublist (handedNonces xs)

theorem kept_nil : Kept [] none :=
  ⟨disciplined_nil, fun _ h => (by cases h), List.Sublist.slnil⟩

namespace Kept

variable {xs : List Exchange} {held held' : Option String} {client : Client}

theorem signedNonces_sublist (h : Kept xs held) :
    (signedNonces xs).Sublist (handedNonces xs) :=
  (List.sublist_append_left _ _).trans h.counted

/-- A request that is not signed leaves what is in the slot unless its reply hands out a nonce. -/
theorem direct (h : Kept xs held) {x : Exchange} (hm : x.request.method ≠ .post) :
    Kept (xs ++ [x]) (x.nonce?.or held) := by
  refine ⟨h.disciplined.concat fun hp => absurd hp hm, ?_, ?_⟩
  · intro nonce hn
    cases hx : x.nonce? with
    | some m =>
      rw [hx, Option.some_or, Option.some.injEq] at hn
      exact latest_concat (hx.trans (congrArg some hn)) xs
    | none =>
      rw [hx, Option.none_or] at hn
      exact (h.latest nonce hn).concat hx hm
  · rw [signedNonces_concat, signedNonce?_of_ne_post hm, Option.toList_none, List.append_nil,
      handedNonces_concat]
    cases x.nonce? with
    | some m => exact h.signedNonces_sublist.append (List.Sublist.refl _)
    | none => exact h.counted.trans (List.sublist_append_left _ _)

/-- A nonce that is taken out of the slot is used up. -/
theorem signed {nonce : String} (h : Kept xs (some nonce)) {url : String} {payload : Payload}
    {sent : Option Exchange} {result : Except RequestError Http.Reply}
    (hs : client.Signed url payload nonce sent result held') :
    Kept (xs ++ sent.toList) held' := by
  cases hs with
  | unsigned he =>
    rw [Option.toList_none, List.append_nil]
    refine ⟨h.disciplined, fun _ hn => (by cases hn), ?_⟩
    rw [Option.toList_none, List.append_nil]
    exact h.signedNonces_sublist
  -- The nonce moves from the slot to the signed ones, and the reply may fill the slot again.
  | @sent x hr =>
    have hx := signedNonce?_signedRequest hr
    refine ⟨h.disciplined.concat fun _ => ⟨nonce, hx, h.latest nonce rfl⟩, ?_, ?_⟩
    · intro m hm
      exact latest_concat hm xs
    · rw [Option.toList_some, signedNonces_concat, handedNonces_concat, hx]
      exact h.counted.append (List.Sublist.refl _)

theorem step (h : Kept xs held) {t : Turn} (hs : t.Step client held held') :
    Kept (xs ++ t.exchanges) held' := by
  -- A refill is a request that is not signed, made with an empty slot.
  have refill {y : Exchange} (hy : y.request = client.nonceRequest) (h : Kept xs none) :
      Kept (xs ++ [y]) y.nonce? := by
    have hm : y.request.method ≠ .post := by
      rw [hy]
      exact Http.Method.noConfusion
    have hkept := h.direct hm
    rw [Option.or_none] at hkept
    exact hkept
  cases hs with
  | @direct _ ask x hr =>
    refine h.direct ?_
    cases ask with
    | nonce =>
      rw [← Option.some.inj hr]
      exact Http.Method.noConfusion
    | plain url =>
      rw [← Option.some.inj hr]
      exact Http.Method.noConfusion
    | signed url payload => cases hr
  | held hsigned => exact h.signed hsigned
  | refilled hy hn hsigned =>
    have hkept := refill hy h
    rw [hn] at hkept
    rw [Turn.exchanges, ← List.append_assoc]
    exact hkept.signed hsigned
  | unfilled hy ho hn =>
    have hkept := refill hy h
    rw [hn] at hkept
    exact hkept
  | @unanswered _ _ y e hy ho =>
    have hkept := refill hy h
    rw [show y.nonce? = none by rw [Exchange.nonce?, ho]] at hkept
    exact hkept

theorem conversation {turns : List Turn} (h : Kept xs held)
    (hc : Conversation client held turns held') :
    Kept (xs ++ turns.flatMap Turn.exchanges) held' := by
  induction hc generalizing xs with
  | nil held =>
    rw [List.flatMap_nil, List.append_nil]
    exact h
  | cons hstep _ ih =>
    rw [List.flatMap_cons, ← List.append_assoc]
    exact ih (h.step hstep)

theorem slot_ne_empty (h : Kept xs held) : held ≠ some "" := by
  rintro rfl
  exact (h.latest "" rfl).ne_empty rfl

end Kept

/-- A signed request that fails leaves the slot empty. -/
theorem Turn.Step.slot_of_error {client : Client} {held held' : Option String} {t : Turn}
    (h : t.Step client held held') {url : String} {payload : Payload}
    (ht : t.ask = .signed url payload) {e : RequestError} (he : t.result = .error e) :
    held' = none := by
  have signed {nonce : String} {sent : Option Exchange} {result : Except RequestError Http.Reply}
      {url : String} {payload : Payload}
      (hs : client.Signed url payload nonce sent result held') (he : result = .error e) :
      held' = none := by
    cases hs with
    | unsigned _ => rfl
    | @sent x _ =>
      rw [Exchange.nonce?]
      split
      · rename_i reply ho
        rw [Exchange.result, ho] at he
        cases he
      · rfl
  cases h with
  | direct hr =>
    cases ht
    cases hr
  | held hs => exact signed hs he
  | refilled _ _ hs => exact signed hs he
  | unfilled => rfl
  | unanswered => rfl

/-! ## Calls of a client -/

namespace Client

/-- A call of a client. -/
inductive Call
  | refresh
  | post (url : String) (payload : Payload)
  | get (url : String)

/-- The session after a call, whether it fails or not. -/
def perform (client : Client) (s : Session) : Call → Session
  | .refresh => s.after client.refreshNonce
  | .post url payload => s.after (client.postSigned url payload)
  | .get url => s.after (Client.get url)

def performAll (client : Client) (s : Session) (calls : List Call) : Session :=
  calls.foldl client.perform s

theorem perform_conversation (client : Client) (s : Session) (call : Call) :
    ∃ turns, Conversation client s.nonce turns (client.perform s call).nonce
      ∧ (client.perform s call).exchanges = s.exchanges ++ turns.flatMap Turn.exchanges := by
  cases call with
  | refresh =>
    have hdoes : Does client s client.refreshNonce _ := refreshNonce_does
    obtain ⟨ds, hd, _⟩ := hdoes
    exact ⟨turnsOf ds, hd.conversation, hd.exchanges⟩
  | post url payload =>
    have hdoes : Does client s (client.postSigned url payload) _ := postSigned_does url payload
    obtain ⟨ds, hd, _⟩ := hdoes
    exact ⟨turnsOf ds, hd.conversation, hd.exchanges⟩
  | get url =>
    have hdoes : Does client s (Client.get url) _ := get_does url
    obtain ⟨ds, hd, _⟩ := hdoes
    exact ⟨turnsOf ds, hd.conversation, hd.exchanges⟩

theorem performAll_conversation (client : Client) (s : Session) (calls : List Call) :
    ∃ turns, Conversation client s.nonce turns (client.performAll s calls).nonce
      ∧ (client.performAll s calls).exchanges
        = s.exchanges ++ turns.flatMap Turn.exchanges := by
  induction calls generalizing s with
  | nil => exact ⟨[], .nil _, (List.append_nil _).symm⟩
  | cons call calls ih =>
    obtain ⟨turns, hc, hx⟩ := client.perform_conversation s call
    obtain ⟨more, hc', hx'⟩ := ih (client.perform s call)
    refine ⟨turns ++ more, hc.append hc', ?_⟩
    rw [List.flatMap_append, ← List.append_assoc, ← hx]
    exact hx'

theorem postSigned_error (client : Client) (s : Session) (url : String) (payload : Payload)
    {e : RequestError} (h : s.outcome (client.postSigned url payload) = .error e) :
    (s.after (client.postSigned url payload)).nonce = none := by
  obtain ⟨t, ht, hr, _, hstep⟩ := client.postSigned_spec s url payload
  exact hstep.slot_of_error ht (hr.trans h)

end Client

/-- Whatever a client that starts without a nonce is called for, and in every run: what is posted
carries the nonce of the latest reply that handed one out, and no two requests carry the nonce of
one reply. -/
theorem nonces_used_once (client : Client) (s : Session) (calls : List Client.Call)
    (config : Config) (keys : KeySupply) :
    (∃ xs, (client.performAll { s with nonce := none } calls).exchanges = s.exchanges ++ xs
        ∧ Disciplined xs ∧ (signedNonces xs).Sublist (handedNonces xs))
      ∧ (client.performAll { s with nonce := none } calls).nonce ≠ some ""
      ∧ (∀ url payload e,
        (client.performAll { s with nonce := none } calls).outcome (client.postSigned url payload)
            = .error e →
          (client.performAll { s with nonce := none } (calls ++ [.post url payload])).nonce = none)
      ∧ ∃ xs, (s.after (run config keys)).exchanges = s.exchanges ++ xs ∧ Disciplined xs
        ∧ ((handedNonces xs).Nodup → (signedNonces xs).Nodup)
        ∧ (s.after (run config keys)).nonce ≠ some "" := by
  obtain ⟨turns, hc, hx⟩ := client.performAll_conversation { s with nonce := none } calls
  have hkept := kept_nil.conversation hc
  refine ⟨⟨_, hx, hkept.disciplined, hkept.signedNonces_sublist⟩, hkept.slot_ne_empty, ?_, ?_⟩
  · intro url payload e he
    rw [Client.performAll, List.foldl_append]
    exact client.postSigned_error _ url payload he
  · obtain ⟨account, deeds, htold⟩ := run_follows config keys s
    have hrun := kept_nil.conversation htold.happened.conversation
    exact ⟨_, htold.happened.exchanges, hrun.disciplined, hrun.signedNonces_sublist.nodup,
      hrun.slot_ne_empty⟩

end Acme
