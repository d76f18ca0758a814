import Acme.Proofs.Authorization
import Acme.Proofs.Run.Course

/-!
# What the CA grants

A challenge is offered for a domain, it is found valid, and a certificate is issued: what this means
for the replies, and that a pass over the domains succeeds only if each was granted in its turn
(`Authorizing.granted`).
-/

namespace Acme.Run

variable (client : Client)

/-! ## What the CA grants -/

/-- The CA offers a challenge for a domain. -/
structure Offers (domain : String) (t : Turn) (c : PendingChallenge) : Prop where
  ask : t.ask = client.authorizationAsk domain
  reply : ∃ reply, t.result = .ok reply ∧ reply.isSuccess = true
    ∧ Problem.ofBody? reply.body = none
    ∧ ∃ authorization, Authorization.ofBody? reply.body = some authorization
      ∧ ∃ challenge ∈ authorization.challenges, challenge.kind = Challenge.http01Kind
        ∧ challenge.uri = some c.uri ∧ challenge.token = some c.token

/-- The CA tells that what is found at a URL is valid. -/
structure Validates (url : String) (t : Turn) : Prop where
  ask : t.ask = .plain url
  reply : ∃ reply, t.result = .ok reply ∧ reply.isSuccess = true
    ∧ ∃ challenge, Challenge.ofBody? reply.body = some challenge
      ∧ challenge.status = some .valid

/-- The CA issues a certificate on a request. -/
structure Issues (request : CertificateRequest) (t : Turn) (c : IssuedCertificate) : Prop where
  ask : t.ask = client.certificateAsk request
  reply : ∃ reply, t.result = .ok reply ∧ reply.isSuccess = true
    ∧ Problem.ofBody? reply.body = none ∧ reply.body ≠ []
    ∧ (∃ link, LinkHeader.upLink? (reply.headerValues "Link") = some link
      ∧ Url.resolve? client.endpoints.newCert link = some c.issuerUrl)
    ∧ c.pem = certificatePem reply.body

/-- Domains are authorized in order: a challenge is offered for each, and found valid later, before
the next domain has its turn. -/
inductive Granted : List String → List Turn → Prop
  | nil (turns : List Turn) : Granted [] turns
  | cons {domain : String} {rest : List String} {c : PendingChallenge} {t u : Turn}
    {before between after : List Turn} (ht : Offers client domain t c) (hu : Validates c.uri u)
    (hrest : Granted rest after) :
    Granted (domain :: rest) (before ++ t :: (between ++ u :: after))

variable {client}

theorem ofReply_eq_challenge {domain : String} {reply : Http.Reply} {c : PendingChallenge}
    (h : AuthorizationReply.ofReply domain reply = .ok (.challenge c)) :
    reply.isSuccess = true ∧ Problem.ofBody? reply.body = none
      ∧ ∃ authorization, Authorization.ofBody? reply.body = some authorization
        ∧ ∃ challenge ∈ authorization.challenges, challenge.kind = Challenge.http01Kind
          ∧ challenge.uri = some c.uri ∧ challenge.token = some c.token := by
  obtain ⟨_, hsuccess, hplain, ⟨authorization, hbody, before, entry, after, hentries, hkind, huri,
    htoken, _⟩, _, _⟩ := ofReply_eq_challenge_iff.1 h
  refine ⟨isSuccess_iff.2 hsuccess, ofBody?_eq_none_iff.2 hplain, authorization, hbody, entry, ?_,
    hkind, huri, htoken⟩
  rw [hentries]
  exact List.mem_append_right before List.mem_cons_self

theorem ofReply_eq_valid {domain : String} {reply : Http.Reply}
    (h : PollVerdict.ofReply domain reply = .valid) :
    reply.isSuccess = true ∧ ∃ challenge, Challenge.ofBody? reply.body = some challenge
      ∧ challenge.status = some .valid := by
  rw [PollVerdict.ofReply] at h
  split at h
  · cases h
  · rename_i hsuccess
    split at h
    · cases h
    · rename_i challenge hbody
      refine ⟨by simpa using hsuccess, challenge, hbody, ?_⟩
      split at h
      · assumption
      · cases h
      · cases h
      · cases h

theorem ofReply_eq_issued {page : String} {reply : Http.Reply} {c : IssuedCertificate}
    (h : CertificateReply.ofReply page reply = .ok (.issued c)) :
    reply.isSuccess = true ∧ Problem.ofBody? reply.body = none ∧ reply.body ≠ []
      ∧ (∃ link, LinkHeader.upLink? (reply.headerValues "Link") = some link
        ∧ Url.resolve? page link = some c.issuerUrl)
      ∧ c.pem = certificatePem reply.body := by
  rw [CertificateReply.ofReply] at h
  split at h
  · split at h <;> cases h
  · rename_i hproblem
    split at h
    · cases h
    · rename_i hsuccess
      split at h
      · cases h
      · rename_i hbody
        split at h
        · cases h
        · rename_i hurl
          cases h
          rw [issuerUrl?, Option.bind_eq_bind, Option.bind_eq_some_iff] at hurl
          exact ⟨by simpa using hsuccess, hproblem, hbody, hurl, rfl⟩

theorem offers_of_authorization {domain : String} {t : Turn} {c : PendingChallenge}
    (ht : t.ask = client.authorizationAsk domain)
    (hc : t.authorization domain = .ok (.challenge c)) : Offers client domain t c := by
  refine ⟨ht, ?_⟩
  rw [Turn.authorization] at hc
  split at hc
  · cases hc
  · rename_i reply hr
    cases ho : AuthorizationReply.ofReply domain reply with
    | error reason =>
      rw [ho] at hc
      cases hc
    | ok said =>
      rw [ho] at hc
      cases hc
      exact ⟨reply, hr, ofReply_eq_challenge ho⟩

theorem validates_of_verdict {c : PendingChallenge} {t : Turn} (ht : t.ask = .plain c.uri)
    (hv : t.verdict c.domain = .valid) : Validates c.uri t := by
  refine ⟨ht, ?_⟩
  rw [Turn.verdict] at hv
  split at hv
  · cases hv
  · rename_i reply hr
    exact ⟨reply, hr, ofReply_eq_valid hv⟩

theorem issues_of_certificate {request : CertificateRequest} {t : Turn} {c : IssuedCertificate}
    (ht : t.ask = client.certificateAsk request)
    (hc : t.certificate client.endpoints.newCert = .ok (.issued c)) : Issues client request t c := by
  refine ⟨ht, ?_⟩
  rw [Turn.certificate] at hc
  split at hc
  · cases hc
  · rename_i reply hr
    exact ⟨reply, hr, ofReply_eq_issued hc⟩

variable {config : Config}

/-! ## Domains are authorized -/

theorem Obtaining.offers {i : Nat} {domain : String} {ds : List Deed} {c : PendingChallenge}
    {b b' : Bool} (h : Obtaining config client i domain b ds (.ok c) b') :
    ∃ before t, turnsOf ds = before ++ [t] ∧ Offers client domain t c := by
  generalize hr : (Except.ok c : Except Failure PendingChallenge) = r at h
  cases h with
  | @offered _ t c' ht hc =>
    cases hr
    exact ⟨[], t, rfl, offers_of_authorization ht hc⟩
  | @registered t t' _ ds ht _ _ ht' =>
    refine ⟨t :: turnsOf ds, t', ?_, offers_of_authorization ht' (offered_eq_ok hr.symm)⟩
    rw [turnsOf_append, turnsOf_append]
    rfl
  | _ => cases hr

theorem Polling.validates {policy : PollPolicy} {c : PendingChallenge} {remaining : Nat}
    {ds : List Deed} (h : Polling policy c remaining ds (.ok ())) :
    ∃ between u, turnsOf ds = between ++ [u] ∧ Validates c.uri u := by
  generalize hr : (Except.ok () : Except Failure Unit) = r at h
  induction h with
  | spent => cases hr
  | @valid _ t ht hv => exact ⟨[], t, rfl, validates_of_verdict ht hv⟩
  | failed => cases hr
  | @pending remaining t ds _ _ _ _ ih =>
    obtain ⟨between, u, hu, hv⟩ := ih hr
    refine ⟨t :: between, u, ?_, hv⟩
    rw [turnsOf_asked, turnsOf_append, turnsOf_pause, hu]
    rfl

theorem Completing.validates {c : PendingChallenge} {ds : List Deed}
    (h : Completing config client c ds (.ok ())) :
    ∃ between u, turnsOf ds = between ++ [u] ∧ Validates c.uri u := by
  cases h with
  | served hs hd =>
    cases hd with
    | @polled t seen ds _ _ _ hp =>
      obtain ⟨between, u, hu, hv⟩ := hp.validates
      refine ⟨t :: between, u, ?_, hv⟩
      rcases hs with rfl | rfl
      · simp [hu]
      · simp [hu]

/-- What is authorized first comes before what is authorized next. -/
theorem Authorizing.granted {i : Nat} {domains : List String} {ds : List Deed} {b b' : Bool}
    (h : Authorizing config client i domains b ds (.ok ()) b') :
    Granted client domains (turnsOf ds) := by
  generalize hr : (Except.ok () : Except Failure Unit) = r at h
  induction h with
  | nil => exact .nil _
  | stopped => cases hr
  | cons hp _ ih =>
    cases hp with
    | obtained ho hc =>
      obtain ⟨before, t, ht, hoffers⟩ := ho.offers
      obtain ⟨between, u, hu, hvalid⟩ := hc.validates
      rw [turnsOf_append, turnsOf_append, ht, hu, List.append_assoc, List.append_assoc,
        List.singleton_append, List.append_assoc, List.singleton_append]
      exact .cons hoffers hvalid (ih hr)

end Acme.Run
