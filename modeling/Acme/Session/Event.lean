import Acme.Failure
import Acme.Log.Entry
import Acme.Registry

/-!
# What happens in a session

The phases of a run, what the CA does with a request, and the events that make up the history of a
session.

Main definitions: `Phase`, `Guards`, `Visit`, `Answer` and `Event`.
-/

namespace Acme

/-! ## Phases -/

/-- Where a run is. -/
inductive Phase
  | init
  | nonce
  | register
  | authStart
  /-- The domain at this place in the list is being authorized. -/
  | challenge (index : Nat)
  | certRequest
  | intermediateFetch
  | done
  deriving DecidableEq, Repr

def Phase.name : Phase → String
  | .init => "init"
  | .nonce => "nonce"
  | .register => "register"
  | .authStart => "auth-start"
  | .challenge index => "challenge[" ++ toString index ++ "]"
  | .certRequest => "cert-request"
  | .intermediateFetch => "intermediate-fetch"
  | .done => "done"

/-- The corrective steps that a run has spent; each may be taken once. -/
structure Guards where
  /-- Registration was attempted. -/
  registered : Bool := false
  /-- The domains were authorized again after the certificate was refused. -/
  authorized : Bool := false
  deriving DecidableEq, Repr

/-! ## The other side -/

/-- A request to the responder, and where it comes from. -/
structure Visit where
  peer : Endpoint
  method : Http.Method := .get
  target : String
  deriving DecidableEq, Repr

/-- What the CA does with a request: it visits the responder, and then replies or fails to. -/
structure Answer where
  visits : List Visit := []
  outcome : Except Http.TransportError Http.Reply

/-- A visitor has been given a key authorization. -/
structure Served where
  token : String
  peer : Endpoint
  deriving DecidableEq, Repr

/-! ## Events -/

/-- Something that happened in a session. -/
inductive Event
  | entered (phase : Phase)
  /-- A request was sent. Meanwhile the visitors were answered, or refused when nobody listened; in
  the end there was a reply or none. -/
  | exchanged (request : Http.Request) (visits : List (Visit × Option Response))
      (outcome : Except Http.TransportError Http.Reply)
  /-- The responder began to listen. -/
  | listened (address : Endpoint)
  /-- The key authorization of a token is served from now on. -/
  | offered (token authorization : String)
  /-- A token is not served any more. -/
  | withdrawn (token : String)
  /-- The session waited for a visitor of a token. -/
  | awaited (token : String) (seen : Bool)
  | slept (milliseconds : Nat)
  /-- A call changed the tree of files, or failed. -/
  | changed (step : FileStep) (fault : Option SystemFault)
  | logged (entry : Log.Entry)

end Acme
