import Acme.Account
import Acme.Failure
import Acme.Payload

/-!
# Signed requests

A signed request is a POST whose body is an envelope: the web key of the account, a protected part
with the same key and a nonce, the payload, and a signature (RFC 7515, RS256) over the two latter,
each in URL-safe base 64.

Main definitions: `Envelope`, `Account.seal?` and `Account.signedRequest`; read from the other side,
`Envelope.ofBody?`, `Envelope.protectedPart?` and `Envelope.Verifies`.
-/

namespace Acme

def signatureAlgorithm : String := "RS256"

def envelopeContentType : String := "application/x-www-form-urlencoded"

/-- The header of an envelope: the algorithm and the web key of the signer. -/
def headerMembers (key : WebKey) : List (String × Json.Value) :=
  [("alg", .text signatureAlgorithm), ("jwk", key.toJson)]

/-! ## The protected part -/

/-- What the signature protects beside the payload. -/
structure ProtectedPart where
  key : WebKey
  nonce : String
  deriving DecidableEq, Repr

namespace ProtectedPart

def toJson (part : ProtectedPart) : Json.Value :=
  .object (headerMembers part.key ++ [("nonce", .text part.nonce)])

/-- The protected part that a JSON object describes. -/
def ofDocument? (v : Json.Document) : Option ProtectedPart := do
  match ← v.fields? ["alg", "jwk", "nonce"] with
  | [some algorithm, some key, some nonce] =>
    guard ((← algorithm.text?) = signatureAlgorithm)
    return ⟨← WebKey.ofDocument? key, ← nonce.text?⟩
  | _ => none

end ProtectedPart

/-! ## Envelopes -/

/-- The body of a signed request; all but the key is in URL-safe base 64. -/
structure Envelope where
  key : WebKey
  protectedText : String
  payloadText : String
  signatureText : String
  deriving DecidableEq, Repr

namespace Envelope

def toJson (envelope : Envelope) : Json.Value :=
  .object [("header", .object (headerMembers envelope.key)),
    ("protected", .text envelope.protectedText),
    ("payload", .text envelope.payloadText),
    ("signature", .text envelope.signatureText)]

/-- What is signed: the protected part and the payload, with a dot between them. -/
def signingInput (protectedText payloadText : String) : Octets :=
  Octets.ofText (protectedText ++ "." ++ payloadText)

/-- The key that the header of an envelope names. -/
def headerKey? (header : Json.Document) : Option WebKey := do
  match ← header.fields? ["alg", "jwk"] with
  | [some algorithm, some key] =>
    guard ((← algorithm.text?) = signatureAlgorithm)
    WebKey.ofDocument? key
  | _ => none

/-- The envelope in the body of a request. -/
def ofBody? (body : Octets) : Option Envelope := do
  match ← (← Json.Document.parse? body).fields? ["header", "protected", "payload", "signature"] with
  | [some header, some protectedText, some payload, some signature] =>
    return ⟨← headerKey? header, ← protectedText.text?, ← payload.text?, ← signature.text?⟩
  | _ => none

def protectedPart? (envelope : Envelope) : Option ProtectedPart := do
  let octets ← Base64.decode? .urlSafe envelope.protectedText.toList
  ProtectedPart.ofDocument? (← Json.Document.parse? octets)

def payload? (envelope : Envelope) : Option Octets :=
  Base64.decode? .urlSafe envelope.payloadText.toList

/-- The signature belongs to the key and to the two parts. -/
def Verifies (envelope : Envelope) (key : Rsa.PublicKey) : Prop :=
  ∃ signature, Base64.decode? .urlSafe envelope.signatureText.toList = some signature
    ∧ key.Verifies (signingInput envelope.protectedText envelope.payloadText) signature

instance (envelope : Envelope) (key : Rsa.PublicKey) : Decidable (envelope.Verifies key) :=
  match h : Base64.decode? .urlSafe envelope.signatureText.toList with
  | none => isFalse fun ⟨signature, hs, _⟩ => by simp [h] at hs
  | some signature =>
    decidable_of_iff
      (key.Verifies (signingInput envelope.protectedText envelope.payloadText) signature)
      ⟨fun hv => ⟨signature, h, hv⟩, fun ⟨s, hs, hv⟩ => by
        rw [h] at hs; cases hs; exact hv⟩

end Envelope

/-! ## Signing -/

namespace Account

/-- The envelope around a payload; none when the key cannot sign. -/
def seal? (account : Account) (nonce : String) (payload : Payload) : Option Envelope := do
  let protectedText := Base64.url (ProtectedPart.mk account.webKey nonce).toJson.toOctets
  let payloadText := Base64.url payload.toJson.toOctets
  let signature ← account.key.sign? (Envelope.signingInput protectedText payloadText)
  return ⟨account.webKey, protectedText, payloadText, Base64.url signature⟩

/-- The signed request to a URL. A nonce must not be used for two of them. -/
def signedRequest (account : Account) (nonce url : String) (payload : Payload) :
    Except RequestError Http.Request :=
  if nonce = "" then .error (.noNonce "nonce is empty")
  else
    match account.seal? nonce payload with
    | none => .error (.signing CryptoError.signing.message)
    | some envelope => .ok {
        method := .post
        url := url
        contentType := some envelopeContentType
        body := some envelope.toJson.toOctets }

end Account

end Acme
