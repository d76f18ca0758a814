import Acme.CryptoError
import Acme.Http
import Acme.Net.Address
import Acme.FileSystem

/-!
# Failures of a run

Each condition that ends a run has its own constructor, its words and its exit code; `RequestError`
is the failure of a single request, and `StorageError` that of a file.

Main definitions: `Failure` with `Failure.message` and `Failure.exitCode`, and
`RequestError.toFailure`.
-/

namespace Acme

/-! ## Files -/

/-- Why a key or certificate file could not be read or written. -/
inductive StorageError
  | io (fault : SystemFault)
  /-- The file does not hold text. -/
  | notText (path : Path)
  deriving DecidableEq, Repr

/-- The words for a failure with a file. -/
def StorageError.message : StorageError → String
  | .io fault => "IO error: " ++ fault.message
  | .notText path => "File is not valid PEM text: " ++ path.text

/-! ## Runs -/

/-- Why a run ended without a certificate. -/
inductive Failure
  /-- The account key could not be made or written. -/
  | accountKeyWrite (path : Path) (reason : String)
  /-- The stored account key cannot be read or is no RSA key. -/
  | accountKeyInvalid (path : Path) (reason : String)
  /-- The CA handed out no nonce. -/
  | noNonce (reason : String)
  /-- The responder could not listen. -/
  | responderBind (address : Endpoint) (fault : SystemFault)
  /-- The CA offered no HTTP-01 challenge for a domain. -/
  | noHttp01Challenge (domain reason : String)
  /-- The state of a challenge could not be read. -/
  | challengeStatus (domain reason : String)
  /-- A challenge failed. -/
  | challengeInvalid (domain detail : String)
  /-- A challenge was still pending after the last poll. -/
  | challengeTimeout (domain : String) (attempts : Nat)
  /-- The CA issued no certificate. -/
  | certificateRequest (reason : String)
  /-- The key for the certificate could not be made. -/
  | certificateKey (reason : String)
  /-- The key for the certificate could not be written. -/
  | certificateKeyWrite (path : Path) (error : StorageError)
  /-- The certificate could not be written. -/
  | certificateWrite (path : Path) (error : StorageError)
  /-- The CA did not say where the issuer certificate is. -/
  | noIssuerLink
  /-- The issuer certificate could not be fetched. -/
  | intermediateFetch (url reason : String)
  /-- The issuer certificate could not be written. -/
  | intermediateWrite (path : Path) (error : StorageError)
  /-- Registration needs a contact. -/
  | missingEmail
  deriving DecidableEq, Repr

namespace Failure

def message : Failure → String
  | .accountKeyWrite path reason =>
    "Cannot write private key for Let's Encrypt to " ++ path.text ++ ": " ++ reason
  | .accountKeyInvalid path reason =>
    "Cannot load private key for Let's Encrypt from " ++ path.text ++ ": " ++ reason
  | .noNonce reason => "No nonce received from CA: " ++ reason
  | .responderBind address fault =>
    "Cannot listen on " ++ address.render ++ ": " ++ fault.message
  | .noHttp01Challenge domain reason =>
    "No http-01 challenge found for domain '" ++ domain ++ "': " ++ reason
  | .challengeStatus domain reason =>
    "Cannot read challenge status for domain '" ++ domain ++ "': " ++ reason
  | .challengeInvalid domain detail =>
    "Challenge for domain '" ++ domain ++ "' failed: " ++ detail
  | .challengeTimeout domain attempts =>
    "Challenge for domain '" ++ domain ++ "' still pending after " ++ toString attempts ++ " polls"
  | .certificateRequest reason => "Certificate request failed: " ++ reason
  | .certificateKey reason => "Cannot create certificate private key: " ++ reason
  | .certificateKeyWrite path error =>
    "Cannot write certificate private key to " ++ path.text ++ ": " ++ error.message
  | .certificateWrite path error =>
    "Cannot write certificate to " ++ path.text ++ ": " ++ error.message
  | .noIssuerLink => "No issuer link found in certificate response"
  | .intermediateFetch url reason =>
    "Cannot fetch intermediate certificate from " ++ url ++ ": " ++ reason
  | .intermediateWrite path error =>
    "Cannot write intermediate certificate to " ++ path.text ++ ": " ++ error.message
  | .missingEmail => "An email address is required to register with the CA"

/-- The exit code that tells a failure; 0 stands for success and 1 for a run that never started. -/
def exitCode : Failure → Nat
  | .accountKeyWrite .. => 2
  | .accountKeyInvalid .. => 3
  | .noNonce _ => 4
  | .responderBind .. => 5
  | .noHttp01Challenge .. => 6
  | .challengeStatus .. => 7
  | .challengeInvalid .. => 8
  | .challengeTimeout .. => 8
  | .certificateRequest _ => 9
  | .certificateKey _ => 10
  | .certificateKeyWrite .. => 10
  | .certificateWrite .. => 11
  | .noIssuerLink => 12
  | .intermediateFetch .. => 13
  | .intermediateWrite .. => 14
  | .missingEmail => 15

end Failure

/-! ## Requests -/

/-- Why a request to the CA failed. -/
inductive RequestError
  /-- There was no nonce to sign with. -/
  | noNonce (reason : String)
  | transport (error : Http.TransportError)
  /-- The payload could not be signed. -/
  | signing (reason : String)
  deriving DecidableEq, Repr

namespace RequestError

def message : RequestError → String
  | .noNonce reason => "No nonce available: " ++ reason
  | .transport error => error.message
  | .signing reason => "Failed to sign request: " ++ reason

/-- The failure of the step that made the request; a missing nonce is told as such whatever the
step. -/
def toFailure (step : String → Failure) : RequestError → Failure
  | .noNonce reason => .noNonce reason
  | other => step other.message

end RequestError

end Acme
