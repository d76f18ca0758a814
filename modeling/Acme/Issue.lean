import Acme.Authorize
import Acme.CertificateRequest
import Acme.LinkHeader
import Acme.Pem
import Acme.Storage
import Acme.Url

/-!
# Issuing a certificate

A certificate request over all domains is sent to the CA. The reply carries the certificate and a
link to that of the issuer, which is fetched in the end. Certificates that come as octets are
written as PEM.

Main definitions: `certificatePem`, `CertificateReply.ofReply`, `requestCertificate`,
`writeCertificate` and `fetchIntermediate`.
-/

namespace Acme

open Session

/-! ## Certificates as text -/

def certificateLabel : String := "CERTIFICATE"

/-- The text looks like PEM, blanks at the start aside. -/
def isPemText (text : String) : Bool :=
  Pem.opening.isPrefixOf (Text.trimStart text.toList)

/-- A certificate as PEM: a body that is PEM already stays as it is. -/
def certificatePem (body : Octets) : String :=
  match Octets.text? body with
  | some text => if isPemText text then text else Pem.encode certificateLabel body
  | none => Pem.encode certificateLabel body

/-! ## Asking for the certificate -/

/-- A certificate, and where that of its issuer is found. -/
structure IssuedCertificate where
  pem : String
  issuerUrl : String
  deriving DecidableEq, Repr

/-- What the CA says to a certificate request. -/
inductive CertificateReply
  | issued (certificate : IssuedCertificate)
  /-- The domains have to be authorized first, or again. -/
  | unauthorized (problem : Problem)
  deriving DecidableEq, Repr

/-- The URL of the issuer certificate that the links of a reply name. -/
def issuerUrl? (page : String) (reply : Http.Reply) : Option String := do
  Url.resolve? page (← LinkHeader.upLink? (reply.headerValues "Link"))

/-- What a reply to a certificate request says. -/
def CertificateReply.ofReply (page : String) (reply : Http.Reply) :
    Except Failure CertificateReply :=
  match Problem.ofBody? reply.body with
  | some problem =>
    if problem.isUnauthorized then .ok (.unauthorized problem)
    else .error (.certificateRequest problem.text)
  | none =>
    if !reply.isSuccess then
      .error (.certificateRequest ("unexpected status " ++ toString reply.status))
    else if reply.body = [] then .error (.certificateRequest "response contained no certificate")
    else
      match issuerUrl? page reply with
      | none => .error .noIssuerLink
      | some url => .ok (.issued ⟨certificatePem reply.body, url⟩)

def requestCertificate (client : Client) (keyPem : String) (domains : List String) :
    Action Failure CertificateReply := do
  match CertificateRequest.create keyPem domains with
  | .error error => throw (.certificateRequest error.message)
  | .ok request =>
    log .info "Requesting certificate" [("domains", .shown (Text.quotedList domains))]
    let page := client.endpoints.newCert
    let reply ← orFail (client.postSigned page (.newCertificate (Base64.url request.der)))
      (RequestError.toFailure .certificateRequest)
    match CertificateReply.ofReply page reply with
    | .error failure => throw failure
    | .ok (.unauthorized problem) =>
      log .warn "Certificate request refused as unauthorized" [("problem", .shown problem.text)]
      return .unauthorized problem
    | .ok (.issued certificate) => return .issued certificate

/-! ## Writing the files -/

/-- Writes the key and the certificate, and returns their paths. -/
def writeCertificate (storage : Storage) (primary keyPem : String)
    (certificate : IssuedCertificate) : Action Failure (Path × Path) := do
  let keyPath ← orFail (storage.writeKey primary keyPem)
    (.certificateKeyWrite (storage.keyPath primary))
  let certPath ← orFail (storage.writeCertificate primary certificate.pem)
    (.certificateWrite (storage.certPath primary))
  return (keyPath, certPath)

/-- The issuer certificate in a reply, or the reason for which there is none. -/
def intermediateOfReply (reply : Http.Reply) : Except String String :=
  if !reply.isSuccess then .error ("unexpected status " ++ toString reply.status)
  else if reply.body = [] then .error "empty response"
  else .ok (certificatePem reply.body)

def fetchIntermediate (storage : Storage) (url : String) : Action Failure Path := do
  log .info "Fetching intermediate certificate" [("url", .shown url)]
  let reply ← orFail (Client.get url) (RequestError.toFailure (.intermediateFetch url))
  match intermediateOfReply reply with
  | .error reason => throw (.intermediateFetch url reason)
  | .ok pem => orFail (storage.writeIntermediate pem) (.intermediateWrite storage.intermediatePath)

end Acme
