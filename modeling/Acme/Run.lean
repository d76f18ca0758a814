import Acme.Config
import Acme.Issue
import Acme.Rsa.Generation
import Acme.Rsa.Text

/-!
# A run

A run goes from the account key to the certificate files. It passes through phases:

* `init`: the account key is loaded, or made and saved;
* `nonce`: the CA is asked for a nonce;
* `register`: a new account is registered;
* `authStart` and `challenge i`: every domain is authorized, in order;
* `certRequest`: the certificate is asked for, and written with its key;
* `intermediateFetch`: the issuer certificate is fetched and written;
* `done`.

Two corrections are made, each once at most: an account that the CA does not know is registered, and
domains are authorized again when the CA refuses the certificate.

Main definitions: `KeySupply`, `newKeyPem`, `obtainChallenge`, `authorizeDomains`, `issue` and
`run`.
-/

namespace Acme

open Session

/-- The new keys of a run: for a size in bits, a key as PEM, or the reason for which there is
none. -/
structure KeySupply where
  account : Nat → Except CryptoError String
  certificate : Nat → Except CryptoError String

/-- A new key of a size as PEM, as a seed determines it. -/
def newKeyPem (bits : Nat) (seed : Rsa.Seed) : Except CryptoError String :=
  match (Rsa.PrivateKey.generate? bits seed).bind Rsa.PrivateKey.pkcs8Pem? with
  | some pem => .ok pem
  | none => .error (.keyGeneration bits)

def KeySupply.ofSeeds (account certificate : Rsa.Seed) : KeySupply :=
  ⟨fun bits => newKeyPem bits account, fun bits => newKeyPem bits certificate⟩

/-- The files that a run leaves. -/
structure IssuedFiles where
  keyPath : Path
  certPath : Path
  intermediatePath : Path
  deriving DecidableEq, Repr

/-! ## The account key -/

/-- Makes an account key and saves it. A new account will have to be registered, which needs a
contact. -/
def createAccountKey (config : Config) (keys : KeySupply) : Action Failure String := do
  if config.contact? = none then throw .missingEmail
  let path := config.accountKey
  log .info "Creating account key"
    [("path", .shown path.text), ("bits", .number config.accountKeyBits)]
  match keys.account config.accountKeyBits with
  | .error error => throw (.accountKeyWrite path error.message)
  | .ok pem =>
    orFail (saveAccountKey path pem) fun error => .accountKeyWrite path error.message
    return pem

/-- The account key as PEM, and whether it has just been made. -/
def ensureAccountKey (config : Config) (keys : KeySupply) : Action Failure (String × Bool) := do
  let path := config.accountKey
  match ← orFail (loadAccountKey path) (fun error => .accountKeyInvalid path error.message) with
  | some pem =>
    if Rsa.isValidKey pem then return (pem, false)
    else throw (.accountKeyInvalid path "not a valid RSA private key")
  | none =>
    let pem ← createAccountKey config keys
    return (pem, true)

/-- The account, and whether its key has just been made. -/
def ensureAccount (config : Config) (keys : KeySupply) : Action Failure (Account × Bool) := do
  let (pem, isNew) ← ensureAccountKey config keys
  match Account.ofPem? pem with
  | none => throw (.accountKeyInvalid config.accountKey CryptoError.keyParse.message)
  | some account => return (account, isNew)

/-! ## Registration -/

/-- What to log about a reply to a registration. -/
def registrationOutcome (reply : Http.Reply) : Action Failure Unit :=
  if reply.status = 201 then log .info "Account registered"
  else if reply.status = 409 then log .info "Account already registered"
  else
    let problem := (Problem.ofBody? reply.body).getD {}
    log .warn "Registration failed"
      [("status", .number reply.status), ("problem", .shown problem.text)]

/-- Registers the account. A refusal is not fatal: the account may still be known. -/
def register (config : Config) (client : Client) : Action Failure Unit := do
  enter .register
  modify fun s => { s with guards := { s.guards with registered := true } }
  match config.contact? with
  | none => throw .missingEmail
  | some email =>
    log .info "Registering account" [("email", .shown email)]
    match ← attempt (client.postSigned client.endpoints.newReg
        (.newRegistration email config.agreement)) with
    | .ok reply => registrationOutcome reply
    | .error (.noNonce reason) => throw (.noNonce reason)
    | .error error => log .warn "Registration request failed" [("error", .shown error.message)]

/-! ## Authorization -/

/-- Asks for the challenge of a domain. When the CA does not know the account and registration has
not been tried, the account is registered and the CA asked again. -/
def obtainChallenge (config : Config) (client : Client) (index : Nat) (domain : String) :
    Action Failure PendingChallenge := do
  let refused (problem : Problem) : Failure :=
    .noHttp01Challenge domain ("unauthorized after registration: " ++ problem.text)
  enter (.challenge index)
  match ← requestAuthorization client domain with
  | .challenge challenge => return challenge
  | .unauthorized problem =>
    if (← get).guards.registered then throw (refused problem)
    log .info "CA does not know this account, registering" [("problem", .shown problem.text)]
    register config client
    enter (.challenge index)
    match ← requestAuthorization client domain with
    | .challenge challenge => return challenge
    | .unauthorized problem => throw (refused problem)

def authorizeDomain (config : Config) (client : Client) (index : Nat) (domain : String) :
    Action Failure Unit := do
  let challenge ← obtainChallenge config client index domain
  completeChallenge client config.httpBind config.policy challenge
  modify fun s => { s with domains := s.domains.advance }

/-- Authorizes domains in order, the first of them at place `index`. -/
def authorizeFrom (config : Config) (client : Client) :
    (index : Nat) → (domains : List String) → Action Failure Unit
  | _, [] => pure ()
  | index, domain :: rest => do
    authorizeDomain config client index domain
    authorizeFrom config client (index + 1) rest

def authorizeDomains (config : Config) (client : Client) : Action Failure Unit := do
  enter .authStart
  modify fun s => { s with domains := s.domains.reset }
  authorizeFrom config client 0 config.domains

/-! ## The certificate -/

/-- Authorizes the domains and asks for the certificate. -/
def authorizeAndRequest (config : Config) (client : Client) (certKey : String) :
    Action Failure CertificateReply := do
  authorizeDomains config client
  enter .certRequest
  requestCertificate client certKey config.domains

/-- Obtains the certificate, with a second pass over the domains if the CA asks for it. -/
def issue (config : Config) (client : Client) (certKey : String) :
    Action Failure IssuedCertificate := do
  match ← authorizeAndRequest config client certKey with
  | .issued certificate => return certificate
  | .unauthorized problem =>
    log .warn "Certificate refused, authorizing domains again" [("problem", .shown problem.text)]
    modify fun s => { s with guards := { s.guards with authorized := true } }
    match ← authorizeAndRequest config client certKey with
    | .issued certificate => return certificate
    | .unauthorized problem =>
      throw (.certificateRequest ("still unauthorized after re-authorization: " ++ problem.text))

/-! ## The run -/

def begin (config : Config) : Action Failure Unit := do
  modify fun s => { s with nonce := none, guards := {}, domains := ⟨config.domains, 0⟩ }
  enter .init

/-- What a run does with an account: everything from the first nonce on. -/
def runWith (config : Config) (client : Client) (isNew : Bool) (certKey : String) :
    Action Failure IssuedFiles := do
  let storage : Storage := ⟨config.destination⟩
  enter .nonce
  client.refreshNonce
  if isNew then register config client
  let certificate ← issue config client certKey
  let primary := config.domains.headD ""
  let (keyPath, certPath) ← writeCertificate storage primary certKey certificate
  enter .intermediateFetch
  let intermediatePath ← fetchIntermediate storage certificate.issuerUrl
  enter .done
  log .info "Certificate issued"
    [("certificate", .shown certPath.text), ("key", .shown keyPath.text),
      ("intermediate", .shown intermediatePath.text)]
  return ⟨keyPath, certPath, intermediatePath⟩

def run (config : Config) (keys : KeySupply) : Action Failure IssuedFiles := do
  begin config
  let (account, isNew) ← ensureAccount config keys
  log .info "Using account key" [("thumbprint", .shown account.thumbprint)]
  match keys.certificate config.certKeyBits with
  | .error error => throw (.certificateKey error.message)
  | .ok certKey => runWith config ⟨config.endpoints, account⟩ isNew certKey

end Acme
