import Acme.Http
import Acme.Url

/-!
# Requests on the network

Where a request goes to, the words for a request that fails on its way, and the request that a
redirection asks for.

Main definitions: `Request.target?`, `Request.unanswered`, `Request.redirected?` and
`mostRedirections`.
-/

namespace Acme.Http

/-! ## Where a request goes -/

/-- The schemes that requests can be sent with. -/
def requestSchemes : List String := ["http", "https"]

/-- The URL that a request goes to. User name and password are no part of it. -/
def Request.target? (request : Request) : Except TransportError Url :=
  match Url.parse? request.url with
  | none => .error (.request "builder error")
  | some url =>
    if url.host.isSome ∧ url.scheme ∈ requestSchemes then .ok { url with userInfo := [] }
    else .error (.request ("builder error for url (" ++ url.render ++ ")"))

/-- The failure of a request that nobody answers. -/
def Request.unanswered (request : Request) : TransportError :=
  match request.target? with
  | .error error => error
  | .ok url => .request ("error sending request for url (" ++ url.render ++ ")")

/-! ## Redirections -/

/-- The redirections that are followed for one request. -/
def mostRedirections : Nat := 10

/-- Statuses after which the resource is read from the new place. -/
def readingStatuses : List Nat := [301, 302, 303]

/-- Statuses after which the same request is made at the new place. -/
def repeatingStatuses : List Nat := [307, 308]

/-- The request without body at another place. A request that was to change something becomes one
that reads. -/
def Request.reading (request : Request) (url : String) : Request :=
  { method := if request.method = .head then .head else .get, url := url }

/-- The request that a reply asks to make instead, if any. -/
def Request.redirected? (request : Request) (reply : Reply) : Option Request := do
  let location ← reply.header? "Location"
  let base ← Url.parse? request.url
  let url ← Url.parseFrom? (some base) location
  if reply.status ∈ readingStatuses then return request.reading url.render
  else if reply.status ∈ repeatingStatuses then return { request with url := url.render }
  else none

/-- The failure of a request that is redirected once too often. -/
def Request.overRedirected (request : Request) : TransportError :=
  .request ("error following redirect for url (" ++ request.url ++ ")")

end Acme.Http
