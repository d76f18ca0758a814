import Acme.Challenge
import Acme.Client
import Acme.Config.Policy

/-!
# Authorizing a domain

The CA offers a challenge for a domain; its key authorization is served while the challenge is
activated and its state is polled, and not a moment longer. Only polling decides: an activation that
is refused is polled like any other.

Main definitions: `requestAuthorization`, `poll` and `completeChallenge`.
-/

namespace Acme

open Session

/-- An HTTP-01 challenge that the CA has offered. -/
structure PendingChallenge where
  domain : String
  token : String
  uri : String
  deriving DecidableEq, Repr

/-- What the CA says to a request for an authorization. -/
inductive AuthorizationReply
  | challenge (challenge : PendingChallenge)
  /-- The account is not known, or not allowed to ask. -/
  | unauthorized (problem : Problem)
  deriving DecidableEq, Repr

/-! ## Asking for a challenge -/

/-- What a reply to a request for an authorization says; the error is the reason for which there is
no challenge. -/
def AuthorizationReply.ofReply (domain : String) (reply : Http.Reply) :
    Except String AuthorizationReply :=
  match Problem.ofBody? reply.body with
  | some problem =>
    if problem.isUnauthorized then .ok (.unauthorized problem) else .error problem.text
  | none =>
    if !reply.isSuccess then .error ("unexpected status " ++ toString reply.status)
    else
      match Authorization.ofBody? reply.body with
      | none => .error "malformed authorization: not an authorization object"
      | some authorization =>
        match authorization.http01? with
        | some { uri := some uri, token := some token, .. } =>
          if isToken token then .ok (.challenge ⟨domain, token, uri⟩)
          else .error ("malformed challenge token '" ++ token ++ "'")
        | _ => .error "authorization offers no http-01 challenge"

def requestAuthorization (client : Client) (domain : String) :
    Action Failure AuthorizationReply := do
  log .info "Requesting authorization" [("domain", .shown domain)]
  let reply ← orFail (client.postSigned client.endpoints.newAuthz (.newAuthorization domain))
    (RequestError.toFailure (.noHttp01Challenge domain))
  match AuthorizationReply.ofReply domain reply with
  | .error reason => throw (.noHttp01Challenge domain reason)
  | .ok (.unauthorized problem) =>
    log .warn "Authorization refused as unauthorized"
      [("domain", .shown domain), ("problem", .shown problem.text)]
    return .unauthorized problem
  | .ok (.challenge challenge) => return .challenge challenge

/-! ## Polling -/

/-- What a reply to a poll says. -/
inductive PollVerdict
  | valid
  | pending
  | failed (failure : Failure)
  deriving DecidableEq, Repr

/-- What a reply to a poll of a domain's challenge says. -/
def PollVerdict.ofReply (domain : String) (reply : Http.Reply) : PollVerdict :=
  if !reply.isSuccess then
    let problem := (Problem.ofBody? reply.body).getD {}
    .failed (.challengeStatus domain ("status " ++ toString reply.status ++ " " ++ problem.text))
  else
    match Challenge.ofBody? reply.body with
    | none => .failed (.challengeStatus domain "malformed challenge: not a challenge object")
    | some challenge =>
      match challenge.status with
      | some .valid => .valid
      | some .pending => .pending
      | some status =>
        .failed (.challengeInvalid domain
          (match challenge.error with
            | some problem => problem.text
            | none => "challenge status is " ++ status.name))
      | none => .failed (.challengeStatus domain "response has no status")

/-- Polls a challenge at most `remaining` times, with pauses between. -/
def pollTimes (policy : PollPolicy) (challenge : PendingChallenge) :
    (remaining : Nat) → Action Failure Unit
  | 0 => throw (.challengeTimeout challenge.domain policy.maxPolls)
  | remaining + 1 => do
    let reply ← orFail (Client.get challenge.uri)
      (RequestError.toFailure (.challengeStatus challenge.domain))
    match PollVerdict.ofReply challenge.domain reply with
    | .valid => log .info "Challenge is valid" [("domain", .shown challenge.domain)]
    | .failed failure => throw failure
    | .pending => do
      if remaining ≠ 0 then sleep policy.intervalMs
      pollTimes policy challenge remaining

/-- Polls a challenge until the CA decides or the last poll is spent. -/
def poll (policy : PollPolicy) (challenge : PendingChallenge) : Action Failure Unit :=
  pollTimes policy challenge policy.maxPolls

/-! ## Completing a challenge -/

/-- Tells the CA that the key authorization is served. Only a missing nonce is fatal. -/
def activate (client : Client) (challenge : PendingChallenge) : Action Failure Unit := do
  let authorization := client.account.keyAuthorization challenge.token
  match ← attempt (client.postSigned challenge.uri (.challengeResponse authorization)) with
  | .ok reply =>
    if !reply.isSuccess then
      let problem := (Problem.ofBody? reply.body).getD {}
      log .warn "Challenge activation was not accepted"
        [("domain", .shown challenge.domain), ("status", .number reply.status),
          ("problem", .shown problem.text)]
  | .error (.noNonce reason) => throw (.noNonce reason)
  | .error error =>
    log .warn "Challenge activation failed"
      [("domain", .shown challenge.domain), ("error", .shown error.message)]

def activateAndPoll (client : Client) (policy : PollPolicy) (challenge : PendingChallenge) :
    Action Failure Unit := do
  activate client challenge
  awaitServed challenge.token
  poll policy challenge

/-- Serves a challenge while it is activated and polled, and ends the serving in any case. -/
def completeChallenge (client : Client) (address : Endpoint) (policy : PollPolicy)
    (challenge : PendingChallenge) : Action Failure Unit := do
  orFail (listen address) (.responderBind address)
  offer challenge.token (client.account.keyAuthorization challenge.token)
  let result ← attempt (activateAndPoll client policy challenge)
  withdraw challenge.token
  match result with
  | .ok () => return
  | .error failure => throw failure

end Acme
