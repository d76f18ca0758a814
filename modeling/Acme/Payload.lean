import Acme.Json.Value

/-!
# Request payloads

The JSON objects that signed requests carry: each names the resource it is for, and has its members
in a fixed order.

Main definitions: `Payload` and `Payload.toJson`.
-/

namespace Acme

/-- What a signed request says. -/
inductive Payload
  /-- Registers the account with a contact and the agreement to the terms. -/
  | newRegistration (email agreement : String)
  /-- Asks for an authorization of a domain. -/
  | newAuthorization (domain : String)
  /-- Activates a challenge. -/
  | challengeResponse (keyAuthorization : String)
  /-- Asks for a certificate; the request is DER in URL-safe base 64. -/
  | newCertificate (request : String)
  /-- Any other JSON value. -/
  | other (value : Json.Value)

namespace Payload

def toJson : Payload → Json.Value
  | .newRegistration email agreement =>
    .object [("resource", .text "new-reg"), ("contact", .array [.text ("mailto:" ++ email)]),
      ("agreement", .text agreement)]
  | .newAuthorization domain =>
    .object [("resource", .text "new-authz"),
      ("identifier", .object [("type", .text "dns"), ("value", .text domain)])]
  | .challengeResponse keyAuthorization =>
    .object [("resource", .text "challenge"), ("keyAuthorization", .text keyAuthorization)]
  | .newCertificate request =>
    .object [("resource", .text "new-cert"), ("csr", .text request)]
  | .other value => value

end Payload

end Acme
