import Acme.Proofs.Base64
import Acme.Proofs.Run.Exposure

/-!
# Challenges that are accepted

Every challenge that is accepted can be served: its token is found in the path that leads to it, and
in its key authorization (`requestAuthorization_sorts`).
-/

namespace Acme

open Session

/-! ## Key authorizations -/

theorem dot_not_mem_thumbprint (account : Account) : '.' ∉ account.thumbprint.toList := by
  intro h
  unfold Account.thumbprint WebKey.thumbprint Base64.url at h
  rw [String.toList_ofList] at h
  exact Base64.value?_of_mem_encode h rfl

theorem toList_keyAuthorization (account : Account) (token : String) :
    (account.keyAuthorization token).toList
      = token.toList ++ '.' :: account.thumbprint.toList := by
  unfold Account.keyAuthorization
  rw [String.toList_append, String.toList_append, List.append_assoc]
  rfl

theorem dot_not_mem_of_isToken {token : String} (h : isToken token = true) :
    '.' ∉ token.toList :=
  fun hc => absurd (mem_of_isToken h hc) (by decide)

section KeyAuthorization

variable (account : Account) {token : String} (h : isToken token = true)

include h

theorem count_keyAuthorization : (account.keyAuthorization token).toList.count '.' = 1 := by
  rw [toList_keyAuthorization, List.count_append, List.count_cons_self,
    List.count_eq_zero_of_not_mem (dot_not_mem_of_isToken h),
    List.count_eq_zero_of_not_mem (dot_not_mem_thumbprint account)]

/-- The token and the thumbprint are read back from their key authorization. -/
theorem splitOn_keyAuthorization : (account.keyAuthorization token).toList.splitOn '.'
    = [token.toList, account.thumbprint.toList] := by
  rw [toList_keyAuthorization, List.splitOn_append_cons_self,
    List.splitOn_eq_singleton (dot_not_mem_of_isToken h),
    List.splitOn_eq_singleton (dot_not_mem_thumbprint account)]
  rfl

theorem keyAuthorization_inj {account' : Account} {token' : String}
    (heq : account'.keyAuthorization token' = account.keyAuthorization token) :
    token' = token ∧ account'.thumbprint = account.thumbprint := by
  have hlist := congrArg String.toList heq
  rw [toList_keyAuthorization, toList_keyAuthorization, eq_comm,
    List.append_cons_inj_of_notMem (dot_not_mem_of_isToken h) (dot_not_mem_thumbprint account)]
    at hlist
  exact ⟨(String.toList_inj.1 hlist.1).symm, (String.toList_inj.1 hlist.2.2).symm⟩

end KeyAuthorization

/-! ## While a challenge is completed -/

namespace Run

variable {client : Client} {policy : PollPolicy} {c : PendingChallenge} {ds : List Deed}
  {r : Except Failure Unit} {event : Event}

theorem next_of_asked {t : Turn} (h : event ∈ (Deed.asked t).events) (e : Exposure) :
    e.next event = e := by
  obtain ⟨x, _, rfl⟩ := List.mem_map.1 h
  rfl

theorem Polling.still {remaining : Nat} (h : Polling policy c remaining ds r) (e : Exposure) :
    ∀ event ∈ ds.flatMap Deed.events, e.next event = e := by
  induction h with
  | spent => exact fun event hevent => absurd hevent List.not_mem_nil
  | valid =>
    intro event hevent
    rw [List.flatMap_singleton] at hevent
    exact next_of_asked hevent e
  | failed =>
    intro event hevent
    rw [List.flatMap_singleton] at hevent
    exact next_of_asked hevent e
  | @pending remaining t ds r _ _ _ ih =>
    intro event hevent
    rw [List.flatMap_cons, List.flatMap_append, List.mem_append, List.mem_append] at hevent
    rcases hevent with hasked | hpause | hrest
    · exact next_of_asked hasked e
    · unfold pause at hpause
      split at hpause
      · rw [List.flatMap_singleton] at hpause
        cases List.mem_singleton.1 hpause
        rfl
      · exact absurd hpause List.not_mem_nil
    · exact ih event hrest

theorem Deciding.still (h : Deciding client policy c ds r) (e : Exposure) :
    ∀ event ∈ ds.flatMap Deed.events, e.next event = e := by
  intro event hevent
  cases h with
  | unactivated =>
    rw [List.flatMap_singleton] at hevent
    exact next_of_asked hevent e
  | @polled _ seen _ _ _ _ hp =>
    rw [List.flatMap_cons, List.flatMap_cons, List.mem_append, List.mem_append] at hevent
    rcases hevent with hasked | hawaited | hpolls
    · exact next_of_asked hasked e
    · cases List.mem_singleton.1 hawaited
      rfl
    · exact hp.still e event hpolls

theorem event_mem_of_mem_exchanges {x : Exchange}
    (h : x ∈ (turnsOf ds).flatMap Turn.exchanges) : x.event ∈ ds.flatMap Deed.events := by
  obtain ⟨t, ht, hx⟩ := List.mem_flatMap.1 h
  obtain ⟨d, hd, hturn⟩ := List.mem_filterMap.1 ht
  cases d with
  | other event => cases hturn
  | asked t' =>
    cases hturn
    exact List.mem_flatMap.2 ⟨_, hd, List.mem_map_of_mem hx⟩

end Run

/-- What a visitor is told who can connect and finds a key authorization. -/
def foundIf (reachable : Bool) (authorization : String) : Option Response :=
  if reachable then some (found authorization) else none

/-- The key authorization is found under the path of the token, during all exchanges. -/
def Serves (reachable : Bool) (token authorization : String) (sent : List Exchange) : Prop :=
  ∀ x ∈ sent, ∀ v ∈ x.visits, v.1.method = .get →
    pathOfTarget v.1.target = challengePath ++ token → v.2 = foundIf reachable authorization

/-- Whatever is sent while a challenge is completed, the challenge is served meanwhile. -/
theorem completeChallenge_serves (client : Client) (address : Endpoint) (policy : PollPolicy)
    (c : PendingChallenge) (s : Session) (h : isToken c.token = true) :
    ∃ sent, (s.after (completeChallenge client address policy c)).exchanges = s.exchanges ++ sent
      ∧ Serves s.reachable c.token (client.account.keyAuthorization c.token) sent := by
  let config : Config := { domains := [], httpBind := address, policy := policy }
  obtain ⟨deeds, hhappened, _, hcompleting⟩ :=
    @completeChallenge_follows client s config c
  have hcomposed : Composed false (completeChallenge client address policy c) :=
    .completeChallenge client address policy c
  have hattended := (steady_attends.respects hcomposed nofun s).deeds hhappened.course
  refine ⟨_, hhappened.exchanges, ?_⟩
  generalize s.outcome (completeChallenge client config.httpBind config.policy c) = r at hcompleting
  cases hcompleting with
  | deaf => exact fun x hx => absurd hx List.not_mem_nil
  | @served start ds _ hstart hdeciding =>
    rw [List.flatMap_append, List.flatMap_cons, List.flatMap_append] at hattended
    obtain ⟨e, _, hrest⟩ := hattended.split
    cases hrest with
    | cons hlistening hrest =>
      have hwindow : Attended s.reachable _ (ds.flatMap Deed.events ++ _) _ := hrest
      obtain ⟨_, hds, _⟩ := hwindow.split
      have hfits := hds.fits_of_still (hdeciding.still _)
      have hturns : turnsOf (start ++ .other (.offered c.token
          (client.account.keyAuthorization c.token)) :: (ds ++ [.other (.withdrawn c.token)]))
          = turnsOf ds := by
        rcases hstart with rfl | rfl
        · simp
        · simp
      rw [hturns]
      intro x hx v hv hmethod hpath
      -- The visit took place after the offer, so the token is registered and the responder listens.
      have hanswer := hfits _ (Run.event_mem_of_mem_exchanges hx) v hv
      have hlistens : e.listening = true := hlistening
      rw [hanswer, Exposure.answer, hmethod, hpath,
        respond_of_get? (tokenOfPath?_challengePath h)]
      unfold Exposure.next foundIf
      rw [hlistens, Registry.get?_add_self]
      rfl

/-! ## What is accepted can be served -/

/-- The challenge can be served, and its key authorization tells what it is made of. -/
structure Servable (client : Client) (c : PendingChallenge) : Prop where
  path : tokenOfPath? (challengePath ++ c.token) = some c.token
  target : pathOfTarget (challengePath ++ c.token) = challengePath ++ c.token
  served : ∀ address policy (s : Session), ∃ sent,
    (s.after (completeChallenge client address policy c)).exchanges = s.exchanges ++ sent
      ∧ Serves s.reachable c.token (client.account.keyAuthorization c.token) sent
  dot : (client.account.keyAuthorization c.token).toList.count '.' = 1
  parts : (client.account.keyAuthorization c.token).toList.splitOn '.'
    = [c.token.toList, client.account.thumbprint.toList]
  distinct : ∀ (account : Account) (token : String),
    account.keyAuthorization token = client.account.keyAuthorization c.token →
      token = c.token ∧ account.thumbprint = client.account.thumbprint

theorem servable_of_isToken (client : Client) {c : PendingChallenge} (h : isToken c.token = true) :
    Servable client c where
  path := tokenOfPath?_challengePath h
  target := pathOfTarget_challengePath h
  served address policy s := completeChallenge_serves client address policy c s h
  dot := count_keyAuthorization client.account h
  parts := splitOn_keyAuthorization client.account h
  distinct _ _ heq := keyAuthorization_inj client.account h heq

/-- What comes of a reply to a request for an authorization. -/
structure Sorts (client : Client) (domain : String) (reply : Http.Reply)
    (outcome : Except Failure AuthorizationReply) : Prop where
  accepted : ∀ c, outcome = .ok (.challenge c) ↔ Accepts domain reply c
  servable : ∀ c, outcome = .ok (.challenge c) → Servable client c
  unauthorized : ∀ problem, outcome = .ok (.unauthorized problem) ↔
    Problem.ofBody? reply.body = some problem ∧ problem.SaysUnauthorized
  otherwise : ∀ failure, outcome = .error failure →
    ∃ reason, failure = .noHttp01Challenge domain reason

theorem sorts_ofReply (client : Client) (domain : String) (reply : Http.Reply) :
    Sorts client domain reply
      ((AuthorizationReply.ofReply domain reply).mapError (.noHttp01Challenge domain)) := by
  have hok (said : AuthorizationReply) :
      (AuthorizationReply.ofReply domain reply).mapError (Failure.noHttp01Challenge domain)
          = .ok said ↔ AuthorizationReply.ofReply domain reply = .ok said := by
    cases AuthorizationReply.ofReply domain reply with
    | ok _ => simp [Except.mapError]
    | error _ => simp [Except.mapError]
  constructor
  · intro c
    rw [hok, ofReply_eq_challenge_iff]
  · intro c h
    exact servable_of_isToken client (ofReply_eq_challenge_iff.1 ((hok _).1 h)).isToken
  · intro problem
    rw [hok, ofReply_eq_unauthorized_iff]
  · intro failure h
    cases hreply : AuthorizationReply.ofReply domain reply with
    | ok said =>
      rw [hreply] at h
      cases h
    | error reason =>
      rw [hreply] at h
      cases h
      exact ⟨reason, rfl⟩

/-- A turn in which an authorization is requested, and what comes of it: the reply to the signed
request decides, and without one there is only the reason for that. -/
structure AsksAuthorization (client : Client) (domain : String) (s : Session) (t : Turn) :
    Prop where
  ask : t.ask = client.authorizationAsk domain
  step : t.Step client s.nonce (s.after (requestAuthorization client domain)).nonce
  exchanges : (s.after (requestAuthorization client domain)).exchanges
    = s.exchanges ++ t.exchanges
  sorted : ∀ x ∈ t.exchanges, x.request.method = .post → ∀ reply, x.outcome = .ok reply →
    Sorts client domain reply (s.outcome (requestAuthorization client domain))
  replied : ∀ said, s.outcome (requestAuthorization client domain) = .ok said →
    ∃ x ∈ t.exchanges, ∃ reply, x.outcome = .ok reply
      ∧ client.Requests (client.authorizationAsk domain) x.request
  unreplied : ∀ e, t.result = .error e →
    s.outcome (requestAuthorization client domain)
      = .error (e.toFailure (.noHttp01Challenge domain))

/-- Every reply to a request for an authorization offers a challenge that can be served, says that
the account is not authorized, or is of no use. -/
theorem requestAuthorization_sorts (client : Client) (domain : String) (s : Session) :
    ∃ t, AsksAuthorization client domain s t := by
  obtain ⟨deeds, hhappened, _, t, hask, rfl, houtcome⟩ :=
    @requestAuthorization_follows client s domain
  have hstep := hhappened.conversation.step
  have hexchanges : (s.after (requestAuthorization client domain)).exchanges
      = s.exchanges ++ t.exchanges := by
    have h := hhappened.exchanges
    rwa [turnsOf_asked, turnsOf_nil, List.flatMap_singleton] at h
  refine ⟨t, hask, hstep, hexchanges, ?_, ?_, ?_⟩
  · intro x hx hpost reply hreply
    rw [Turn.exchanges, List.mem_append, Option.mem_toList, Option.mem_toList] at hx
    rcases hx with hrefill | hsent
    · rw [hstep.refill_request hrefill] at hpost
      cases hpost
    · have hresult : t.result = .ok reply := by
        rw [(hstep.sent_spec hsent).2, Exchange.result, hreply]
        rfl
      rw [houtcome, Turn.authorization, hresult]
      exact sorts_ofReply client domain reply
  · intro said hsaid
    cases hresult : t.result with
    | error e =>
      rw [houtcome, Turn.authorization, hresult] at hsaid
      cases hsaid
    | ok reply =>
      obtain ⟨x, hsent, hreply, hrequest⟩ := hstep.replied_spec hresult
      rw [hask] at hrequest
      exact ⟨x, List.mem_append_right _ (Option.mem_toList.2 hsent), reply, hreply, hrequest⟩
  · intro e he
    rw [houtcome, Turn.authorization, he]

end Acme
