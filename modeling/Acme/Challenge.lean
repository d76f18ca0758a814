import Acme.Problem
import Acme.Text

/-!
# Challenges and authorizations

The bodies that a CA answers with: a challenge, both when it is offered and when its state is asked
for, and an authorization, which offers challenges.

Main definitions: `Challenge.ofBody?`, `Authorization.ofBody?`, `Authorization.http01?` and
`isToken`.
-/

namespace Acme

/-- The state of a challenge. -/
inductive ChallengeStatus
  | pending
  | valid
  | invalid
  | unknown
  deriving DecidableEq, Repr

namespace ChallengeStatus

/-- The state with this name; any other name is unknown. -/
def ofName (name : String) : ChallengeStatus :=
  if name = "pending" then .pending
  else if name = "valid" then .valid
  else if name = "invalid" then .invalid
  else .unknown

def name : ChallengeStatus → String
  | .pending => "pending"
  | .valid => "valid"
  | .invalid => "invalid"
  | .unknown => "unknown"

/-- The state that a document describes: its name, or an object whose only member has that name and
is null. -/
def ofDocument? : Json.Document → Option ChallengeStatus
  | .string written => (Json.decodeText? written).map ofName
  | .object [(written, .null)] => (Json.decodeText? written).map ofName
  | _ => none

end ChallengeStatus

/-- A challenge. -/
structure Challenge where
  kind : String := ""
  uri : Option String := none
  token : Option String := none
  status : Option ChallengeStatus := none
  error : Option Problem := none
  deriving DecidableEq, Repr

namespace Challenge

/-- The type of challenges that are served over HTTP. -/
def http01Kind : String := "http-01"

def ofDocument? (v : Json.Document) : Option Challenge := do
  match ← v.fields? ["type", "uri", "token", "status", "error"] with
  | [kind, uri, token, status, error] =>
    return {
      kind := ← Json.Document.withDefault? "" Json.Document.text? kind
      uri := ← Json.Document.optional? Json.Document.text? uri
      token := ← Json.Document.optional? Json.Document.text? token
      status := ← Json.Document.optional? ChallengeStatus.ofDocument? status
      error := ← Json.Document.optional? Problem.ofDocument? error }
  | _ => none

/-- The challenge in the body of a response. -/
def ofBody? (body : Octets) : Option Challenge := do
  ofDocument? (← Json.Document.parse? body)

end Challenge

/-- An authorization. -/
structure Authorization where
  status : Option String := none
  challenges : List Challenge := []
  deriving DecidableEq, Repr

namespace Authorization

def challenges? : Json.Document → Option (List Challenge)
  | .array items => items.mapM Challenge.ofDocument?
  | _ => none

def ofDocument? (v : Json.Document) : Option Authorization := do
  match ← v.fields? ["status", "challenges"] with
  | [status, challenges] =>
    return {
      status := ← Json.Document.optional? Json.Document.text? status
      challenges := ← Json.Document.withDefault? [] challenges? challenges }
  | _ => none

/-- The authorization in the body of a response. -/
def ofBody? (body : Octets) : Option Authorization := do
  ofDocument? (← Json.Document.parse? body)

/-- The first HTTP-01 challenge with a URI and a token. -/
def http01? (authorization : Authorization) : Option Challenge :=
  authorization.challenges.find? fun c =>
    c.kind == Challenge.http01Kind && c.uri.isSome && c.token.isSome

end Authorization

/-- Tokens are made of URL-safe base 64 digits, so that they can be a path segment. -/
def isToken (token : String) : Bool :=
  token ≠ "" && token.toList.all fun c => Text.isAlphanumeric c || c == '-' || c == '_'

end Acme
