import Acme.Endpoints
import Acme.Envelope
import Acme.Session

/-!
# Requests to the CA

Every request goes through one place, which keeps the nonce of the latest reply. A signed request
takes the nonce out of its slot, so that none is used twice; when the slot is empty, one request for
a new nonce is made first.

Main definitions: `Client.send`, `Client.refreshNonce`, `Client.postSigned` and `Client.get`.
-/

namespace Acme

/-- The name of the header field with the next nonce. -/
def nonceHeader : String := "Replay-Nonce"

/-- The nonce that a reply hands out; an empty one is none. -/
def Http.Reply.nonce? (reply : Http.Reply) : Option String :=
  (reply.header? nonceHeader).filter fun nonce => nonce ≠ ""

/-- Who asks, and where the CA is found. -/
structure Client where
  endpoints : Endpoints
  account : Account

namespace Client

open Session

variable {ε : Type}

/-- Sends a request and keeps the nonce of the reply. -/
def send (request : Http.Request) : Action Http.TransportError Http.Reply := do
  let reply ← exchange request
  match reply.nonce? with
  | some nonce => modify fun s => { s with nonce := some nonce }
  | none =>
    if !reply.isSuccess then
      log .warn "Response carried no nonce"
        [("url", .shown request.url), ("status", .number reply.status)]
  return reply

/-- The request that a new nonce is asked for with. -/
def nonceRequest (client : Client) : Http.Request :=
  { method := .head, url := client.endpoints.directory }

/-- The words for a reply without a nonce. -/
def withoutNonce (reply : Http.Reply) : String :=
  "directory responded with status " ++ toString reply.status ++ " but no " ++ nonceHeader
    ++ " header"

def refreshNonce (client : Client) : Action Failure Unit := do
  let reply ← orFail (send client.nonceRequest) fun error => .noNonce error.message
  let s ← get
  if s.nonce = none then throw (.noNonce (withoutNonce reply))

def takeHeld : Action ε (Option String) :=
  modifyGet fun s => (s.nonce, { s with nonce := none })

/-- Takes the nonce; when there is none, asks for one, once. -/
def takeNonce (client : Client) : Action RequestError String := do
  match ← takeHeld with
  | some nonce => return nonce
  | none =>
    let reply ← orFail (send client.nonceRequest) RequestError.transport
    match ← takeHeld with
    | some nonce => return nonce
    | none => throw (.noNonce (withoutNonce reply))

def postSigned (client : Client) (url : String) (payload : Payload) :
    Action RequestError Http.Reply := do
  let nonce ← client.takeNonce
  match client.account.signedRequest nonce url payload with
  | .error error => throw error
  | .ok request => orFail (send request) RequestError.transport

def get (url : String) : Action RequestError Http.Reply :=
  orFail (send { method := .get, url := url }) RequestError.transport

end Client

end Acme
