import Acme.Proofs.Client.Deed
import Acme.Run

/-!
# The course of a run

Relations between what a part of a run does and how it ends, one for each part. They leave out how
the part goes about it: the only things that decide are the results of turns and of calls on the
files, and the guards.
-/

namespace Acme

/-! ## What is asked for -/

namespace Client

def registrationAsk (client : Client) (email agreement : String) : Ask :=
  .signed client.endpoints.newReg (.newRegistration email agreement)

def authorizationAsk (client : Client) (domain : String) : Ask :=
  .signed client.endpoints.newAuthz (.newAuthorization domain)

def activationAsk (client : Client) (challenge : PendingChallenge) : Ask :=
  .signed challenge.uri (.challengeResponse (client.account.keyAuthorization challenge.token))

def certificateAsk (client : Client) (request : CertificateRequest) : Ask :=
  .signed client.endpoints.newCert (.newCertificate (Base64.url request.der))

end Client

/-! ## What a turn comes to -/

namespace Turn

/-- What a request for an authorization comes to. -/
def authorization (t : Turn) (domain : String) : Except Failure AuthorizationReply :=
  match t.result with
  | .error e => .error (e.toFailure (.noHttp01Challenge domain))
  | .ok reply => (AuthorizationReply.ofReply domain reply).mapError (.noHttp01Challenge domain)

def verdict (t : Turn) (domain : String) : PollVerdict :=
  match t.result with
  | .error e => .failed (e.toFailure (.challengeStatus domain))
  | .ok reply => .ofReply domain reply

/-- What a request comes to whose refusal is not fatal. -/
def tolerated (t : Turn) : Except Failure Unit :=
  match t.result with
  | .error (.noNonce reason) => .error (.noNonce reason)
  | _ => .ok ()

theorem tolerated_of_ok {t : Turn} {reply : Http.Reply} (h : t.result = .ok reply) :
    t.tolerated = .ok () := by
  rw [tolerated, h]

theorem tolerated_of_noNonce {t : Turn} {reason : String}
    (h : t.result = .error (.noNonce reason)) : t.tolerated = .error (.noNonce reason) := by
  rw [tolerated, h]

theorem tolerated_of_error {t : Turn} {e : RequestError} (h : t.result = .error e)
    (hne : ∀ reason, e ≠ .noNonce reason) : t.tolerated = .ok () := by
  rw [tolerated]
  split
  · rename_i reason hr
    rw [h] at hr
    cases hr
    exact absurd rfl (hne reason)
  · rfl

def certificate (t : Turn) (page : String) : Except Failure CertificateReply :=
  match t.result with
  | .error e => .error (e.toFailure .certificateRequest)
  | .ok reply => CertificateReply.ofReply page reply

/-- What a request for the issuer certificate comes to. -/
def intermediate (t : Turn) (url : String) : Except Failure String :=
  match t.result with
  | .error e => .error (e.toFailure (.intermediateFetch url))
  | .ok reply => (intermediateOfReply reply).mapError (.intermediateFetch url)

end Turn

namespace Run

variable (config : Config) (client : Client)

abbrev entering (phase : Phase) : Deed := .other (.entered phase)

/-! ## Authorizing -/

/-- Registers the account. -/
inductive Registering : List Deed → Except Failure Unit → Prop
  | homeless (hc : config.contact? = none) :
    Registering [entering .register] (.error .missingEmail)
  | asked {email : String} {t : Turn} (hc : config.contact? = some email)
    (ht : t.ask = client.registrationAsk email config.agreement) :
    Registering [entering .register, .asked t] t.tolerated

/-- The failure when an account that was registered is not authorized. -/
def refused (domain : String) (problem : Problem) : Failure :=
  .noHttp01Challenge domain ("unauthorized after registration: " ++ problem.text)

/-- A challenge, if one is offered to an account that was registered. -/
def offered (domain : String) : AuthorizationReply → Except Failure PendingChallenge
  | .challenge challenge => .ok challenge
  | .unauthorized problem => .error (refused domain problem)

theorem offered_eq_ok {domain : String} {r : Except Failure AuthorizationReply}
    {c : PendingChallenge} (h : r.bind (offered domain) = .ok c) : r = .ok (.challenge c) := by
  cases r with
  | error f => cases h
  | ok reply =>
    cases reply with
    | challenge c' =>
      cases h
      rfl
    | unauthorized problem => cases h

/-- Asks for the challenge of the domain at a place in the list. The truth values tell whether
registration was attempted, before and after. -/
inductive Obtaining (index : Nat) (domain : String) :
    Bool → List Deed → Except Failure PendingChallenge → Bool → Prop
  | failed {registered : Bool} {t : Turn} {f : Failure} (ht : t.ask = client.authorizationAsk domain)
    (hf : t.authorization domain = .error f) :
    Obtaining index domain registered [entering (.challenge index), .asked t] (.error f) registered
  | offered {registered : Bool} {t : Turn} {c : PendingChallenge}
    (ht : t.ask = client.authorizationAsk domain)
    (hc : t.authorization domain = .ok (.challenge c)) :
    Obtaining index domain registered [entering (.challenge index), .asked t] (.ok c) registered
  | refused {t : Turn} {problem : Problem} (ht : t.ask = client.authorizationAsk domain)
    (hp : t.authorization domain = .ok (.unauthorized problem)) :
    Obtaining index domain true [entering (.challenge index), .asked t]
      (.error (refused domain problem)) true
  | unregistered {t : Turn} {problem : Problem} {ds : List Deed} {f : Failure}
    (ht : t.ask = client.authorizationAsk domain)
    (hp : t.authorization domain = .ok (.unauthorized problem))
    (hr : Registering config client ds (.error f)) :
    Obtaining index domain false ([entering (.challenge index), .asked t] ++ ds) (.error f) true
  | registered {t t' : Turn} {problem : Problem} {ds : List Deed}
    (ht : t.ask = client.authorizationAsk domain)
    (hp : t.authorization domain = .ok (.unauthorized problem))
    (hr : Registering config client ds (.ok ())) (ht' : t'.ask = client.authorizationAsk domain) :
    Obtaining index domain false
      ([entering (.challenge index), .asked t] ++ (ds ++ [entering (.challenge index), .asked t']))
      ((t'.authorization domain).bind (offered domain)) true

/-- The pause after a poll; there is none when no poll remains. -/
def pause (policy : PollPolicy) (remaining : Nat) : List Deed :=
  if remaining ≠ 0 then [.other (.slept policy.intervalMs)] else []

theorem turnsOf_pause (policy : PollPolicy) (remaining : Nat) :
    turnsOf (pause policy remaining) = [] := by
  rw [pause]
  split <;> rfl

/-- Polls a challenge a number of times at most. -/
inductive Polling (policy : PollPolicy) (challenge : PendingChallenge) :
    Nat → List Deed → Except Failure Unit → Prop
  | spent : Polling policy challenge 0 []
      (.error (.challengeTimeout challenge.domain policy.maxPolls))
  | valid {remaining : Nat} {t : Turn} (ht : t.ask = .plain challenge.uri)
    (hv : t.verdict challenge.domain = .valid) :
    Polling policy challenge (remaining + 1) [.asked t] (.ok ())
  | failed {remaining : Nat} {t : Turn} {f : Failure} (ht : t.ask = .plain challenge.uri)
    (hv : t.verdict challenge.domain = .failed f) :
    Polling policy challenge (remaining + 1) [.asked t] (.error f)
  | pending {remaining : Nat} {t : Turn} {ds : List Deed} {r : Except Failure Unit}
    (ht : t.ask = .plain challenge.uri) (hv : t.verdict challenge.domain = .pending)
    (hp : Polling policy challenge remaining ds r) :
    Polling policy challenge (remaining + 1) (.asked t :: (pause policy remaining ++ ds)) r

/-- Activates a challenge and polls it. -/
inductive Deciding (policy : PollPolicy) (challenge : PendingChallenge) :
    List Deed → Except Failure Unit → Prop
  | unactivated {t : Turn} {f : Failure} (ht : t.ask = client.activationAsk challenge)
    (hf : t.tolerated = .error f) : Deciding policy challenge [.asked t] (.error f)
  | polled {t : Turn} {seen : Bool} {ds : List Deed} {r : Except Failure Unit}
    (ht : t.ask = client.activationAsk challenge) (hok : t.tolerated = .ok ())
    (hp : Polling policy challenge policy.maxPolls ds r) :
    Deciding policy challenge (.asked t :: .other (.awaited challenge.token seen) :: ds) r

/-- Serves a challenge while it is decided. -/
inductive Completing (challenge : PendingChallenge) : List Deed → Except Failure Unit → Prop
  | deaf {fault : SystemFault} :
    Completing challenge [] (.error (.responderBind config.httpBind fault))
  | served {start ds : List Deed} {r : Except Failure Unit}
    (hs : start = [] ∨ start = [.other (.listened config.httpBind)])
    (hd : Deciding client config.policy challenge ds r) :
    Completing challenge
      (start ++ .other (.offered challenge.token (client.account.keyAuthorization challenge.token))
        :: (ds ++ [.other (.withdrawn challenge.token)])) r

/-- Authorizes the domain at a place in the list. -/
inductive Passing (index : Nat) (domain : String) :
    Bool → List Deed → Except Failure Unit → Bool → Prop
  | unobtained {b b' : Bool} {ds : List Deed} {f : Failure}
    (ho : Obtaining config client index domain b ds (.error f) b') :
    Passing index domain b ds (.error f) b'
  | obtained {b b' : Bool} {ds es : List Deed} {c : PendingChallenge} {r : Except Failure Unit}
    (ho : Obtaining config client index domain b ds (.ok c) b')
    (hc : Completing config client c es r) : Passing index domain b (ds ++ es) r b'

/-- Authorizes domains in order, the first of them at a place in the list. -/
inductive Authorizing : Nat → List String → Bool → List Deed → Except Failure Unit → Bool → Prop
  | nil {index : Nat} {b : Bool} : Authorizing index [] b [] (.ok ()) b
  | stopped {index : Nat} {domain : String} {rest : List String} {b b' : Bool} {ds : List Deed}
    {f : Failure} (hp : Passing config client index domain b ds (.error f) b') :
    Authorizing index (domain :: rest) b ds (.error f) b'
  | cons {index : Nat} {domain : String} {rest : List String} {b b' b'' : Bool} {ds es : List Deed}
    {r : Except Failure Unit} (hp : Passing config client index domain b ds (.ok ()) b')
    (hr : Authorizing (index + 1) rest b' es r b'') :
    Authorizing index (domain :: rest) b (ds ++ es) r b''

/-! ## The certificate -/

/-- Authorizes all domains and asks for the certificate. -/
inductive Requesting (certKey : String) :
    Bool → List Deed → Except Failure CertificateReply → Bool → Prop
  | unauthorized {b b' : Bool} {ds : List Deed} {f : Failure}
    (ha : Authorizing config client 0 config.domains b ds (.error f) b') :
    Requesting certKey b (entering .authStart :: ds) (.error f) b'
  | unrequested {b b' : Bool} {ds : List Deed} {e : CryptoError}
    (ha : Authorizing config client 0 config.domains b ds (.ok ()) b')
    (he : CertificateRequest.create certKey config.domains = .error e) :
    Requesting certKey b (entering .authStart :: (ds ++ [entering .certRequest]))
      (.error (.certificateRequest e.message)) b'
  | requested {b b' : Bool} {ds : List Deed} {request : CertificateRequest} {t : Turn}
    (ha : Authorizing config client 0 config.domains b ds (.ok ()) b')
    (hr : CertificateRequest.create certKey config.domains = .ok request)
    (ht : t.ask = client.certificateAsk request) :
    Requesting certKey b (entering .authStart :: (ds ++ [entering .certRequest, .asked t]))
      (t.certificate client.endpoints.newCert) b'

/-- The certificate, if it is issued in the second pass. -/
def issuedAtLast : CertificateReply → Except Failure IssuedCertificate
  | .issued certificate => .ok certificate
  | .unauthorized problem =>
    .error (.certificateRequest ("still unauthorized after re-authorization: " ++ problem.text))

theorem issuedAtLast_eq_ok {r : Except Failure CertificateReply} {c : IssuedCertificate}
    (h : r.bind issuedAtLast = .ok c) : r = .ok (.issued c) := by
  cases r with
  | error f => cases h
  | ok reply =>
    cases reply with
    | issued c' =>
      cases h
      rfl
    | unauthorized problem => cases h

/-- Obtains the certificate in one pass or two. -/
inductive Issuing (certKey : String) :
    Guards → List Deed → Except Failure IssuedCertificate → Guards → Prop
  | failed {g : Guards} {b : Bool} {ds : List Deed} {f : Failure}
    (hr : Requesting config client certKey g.registered ds (.error f) b) :
    Issuing certKey g ds (.error f) { g with registered := b }
  | issued {g : Guards} {b : Bool} {ds : List Deed} {c : IssuedCertificate}
    (hr : Requesting config client certKey g.registered ds (.ok (.issued c)) b) :
    Issuing certKey g ds (.ok c) { g with registered := b }
  | twice {g : Guards} {b b' : Bool} {ds es : List Deed} {problem : Problem}
    {r : Except Failure CertificateReply}
    (hr : Requesting config client certKey g.registered ds (.ok (.unauthorized problem)) b)
    (hr' : Requesting config client certKey b es r b') :
    Issuing certKey g (ds ++ es) (r.bind issuedAtLast) ⟨b', true⟩

/-! ## Files -/

/-- Makes calls on the files until one fails. -/
inductive Changing : List FileStep → List Deed → Option SystemFault → Prop
  | nil : Changing [] [] none
  | stopped {step : FileStep} {rest : List FileStep} {fault : SystemFault} :
    Changing (step :: rest) [.other (.changed step (some fault))] (some fault)
  | cons {step : FileStep} {rest : List FileStep} {ds : List Deed} {fault : Option SystemFault}
    (h : Changing rest ds fault) : Changing (step :: rest) (.other (.changed step none) :: ds) fault

/-- The calls that write the key of the certificate. -/
def keySteps (certKey : String) : List FileStep :=
  privateSteps ((Storage.mk config.destination).keyPath (config.domains.headD "")) certKey

def leafSteps (c : IssuedCertificate) : List FileStep :=
  publicSteps ((Storage.mk config.destination).certPath (config.domains.headD "")) c.pem

def issuerSteps (pem : String) : List FileStep :=
  publicSteps (Storage.mk config.destination).intermediatePath pem

/-- The files that a run writes in the end. -/
def files : IssuedFiles where
  keyPath := (Storage.mk config.destination).keyPath (config.domains.headD "")
  certPath := (Storage.mk config.destination).certPath (config.domains.headD "")
  intermediatePath := (Storage.mk config.destination).intermediatePath

/-- Writes the key and the certificate. -/
inductive Writing (certKey : String) (c : IssuedCertificate) :
    List Deed → Except Failure Unit → Prop
  | keyless {ds : List Deed} {fault : SystemFault}
    (hk : Changing (keySteps config certKey) ds (some fault)) :
    Writing certKey c ds (.error (.certificateKeyWrite (files config).keyPath (.io fault)))
  | leafless {ds es : List Deed} {fault : SystemFault}
    (hk : Changing (keySteps config certKey) ds none)
    (hc : Changing (leafSteps config c) es (some fault)) :
    Writing certKey c (ds ++ es) (.error (.certificateWrite (files config).certPath (.io fault)))
  | written {ds es : List Deed} (hk : Changing (keySteps config certKey) ds none)
    (hc : Changing (leafSteps config c) es none) : Writing certKey c (ds ++ es) (.ok ())

/-- Fetches the issuer certificate and writes it. -/
inductive Fetching (url : String) : List Deed → Except Failure Unit → Prop
  | unfetched {t : Turn} {f : Failure} (ht : t.ask = .plain url)
    (hf : t.intermediate url = .error f) : Fetching url [.asked t] (.error f)
  | unwritten {t : Turn} {pem : String} {ds : List Deed} {fault : SystemFault}
    (ht : t.ask = .plain url) (hp : t.intermediate url = .ok pem)
    (hi : Changing (issuerSteps config pem) ds (some fault)) :
    Fetching url (.asked t :: ds)
      (.error (.intermediateWrite (files config).intermediatePath (.io fault)))
  | written {t : Turn} {pem : String} {ds : List Deed} (ht : t.ask = .plain url)
    (hp : t.intermediate url = .ok pem) (hi : Changing (issuerSteps config pem) ds none) :
    Fetching url (.asked t :: ds) (.ok ())

/-- Writes all files of a certificate. -/
inductive Delivering (certKey : String) (c : IssuedCertificate) :
    List Deed → Except Failure IssuedFiles → Prop
  | unwritten {ds : List Deed} {f : Failure} (hw : Writing config certKey c ds (.error f)) :
    Delivering certKey c ds (.error f)
  | unfetched {ds es : List Deed} {f : Failure} (hw : Writing config certKey c ds (.ok ()))
    (hf : Fetching config c.issuerUrl es (.error f)) :
    Delivering certKey c (ds ++ entering .intermediateFetch :: es) (.error f)
  | delivered {ds es : List Deed} (hw : Writing config certKey c ds (.ok ()))
    (hf : Fetching config c.issuerUrl es (.ok ())) :
    Delivering certKey c (ds ++ entering .intermediateFetch :: (es ++ [entering .done]))
      (.ok (files config))

/-! ## The run -/

/-- Loads the account key, or makes and saves one when nothing is there. The truth value tells
whether the key is new. -/
inductive Keeping (keys : KeySupply) (present : Bool) :
    List Deed → Except Failure (Account × Bool) → Prop
  | unreadable {reason : String} (hp : present = true) :
    Keeping keys present [] (.error (.accountKeyInvalid config.accountKey reason))
  | loaded {account : Account} (hp : present = true) : Keeping keys present [] (.ok (account, false))
  | homeless (hp : present = false) (hc : config.contact? = none) :
    Keeping keys present [] (.error .missingEmail)
  | unmade {e : CryptoError} (hp : present = false) (hk : keys.account config.accountKeyBits = .error e) :
    Keeping keys present [] (.error (.accountKeyWrite config.accountKey e.message))
  | unsaved {pem : String} {ds : List Deed} {fault : SystemFault} (hp : present = false)
    (hk : keys.account config.accountKeyBits = .ok pem)
    (hs : Changing (privateSteps config.accountKey pem) ds (some fault)) :
    Keeping keys present ds
      (.error (.accountKeyWrite config.accountKey (StorageError.io fault).message))
  | unusable {pem : String} {ds : List Deed} (hp : present = false)
    (hk : keys.account config.accountKeyBits = .ok pem)
    (hs : Changing (privateSteps config.accountKey pem) ds none) (ha : Account.ofPem? pem = none) :
    Keeping keys present ds
      (.error (.accountKeyInvalid config.accountKey CryptoError.keyParse.message))
  | saved {pem : String} {ds : List Deed} {account : Account} (hp : present = false)
    (hk : keys.account config.accountKeyBits = .ok pem)
    (hs : Changing (privateSteps config.accountKey pem) ds none)
    (ha : Account.ofPem? pem = some account) :
    Keeping keys present ds (.ok (account, true))

/-- Asks for a nonce, and registers a new account. -/
inductive Opening (isNew : Bool) : Bool → List Deed → Except Failure Unit → Bool → Prop
  | nonceless {b : Bool} {t : Turn} {reason : String} (ht : t.ask = .nonce) :
    Opening isNew b [entering .nonce, .asked t] (.error (.noNonce reason)) b
  | known {b : Bool} {t : Turn} (ht : t.ask = .nonce) (hn : isNew = false) :
    Opening isNew b [entering .nonce, .asked t] (.ok ()) b
  | registering {b : Bool} {t : Turn} {ds : List Deed} {r : Except Failure Unit}
    (ht : t.ask = .nonce) (hn : isNew = true) (hr : Registering config client ds r) :
    Opening isNew b ([entering .nonce, .asked t] ++ ds) r true

/-- Does everything from the first nonce on. -/
inductive Proceeding (isNew : Bool) (certKey : String) :
    Guards → List Deed → Except Failure IssuedFiles → Guards → Prop
  | unopened {g : Guards} {b : Bool} {ds : List Deed} {f : Failure}
    (ho : Opening config client isNew g.registered ds (.error f) b) :
    Proceeding isNew certKey g ds (.error f) { g with registered := b }
  | unissued {g g' : Guards} {b : Bool} {ds es : List Deed} {f : Failure}
    (ho : Opening config client isNew g.registered ds (.ok ()) b)
    (hi : Issuing config client certKey { g with registered := b } es (.error f) g') :
    Proceeding isNew certKey g (ds ++ es) (.error f) g'
  | issued {g g' : Guards} {b : Bool} {ds es fs : List Deed} {c : IssuedCertificate}
    {r : Except Failure IssuedFiles}
    (ho : Opening config client isNew g.registered ds (.ok ()) b)
    (hi : Issuing config client certKey { g with registered := b } es (.ok c) g')
    (hd : Delivering config certKey c fs r) : Proceeding isNew certKey g (ds ++ es ++ fs) r g'

/-- Performs a run. -/
inductive Running (keys : KeySupply) (present : Bool) (account : Account) :
    List Deed → Except Failure IssuedFiles → Guards → Prop
  | unkept {ds : List Deed} {f : Failure} (hk : Keeping config keys present ds (.error f)) :
    Running keys present account (entering .init :: ds) (.error f) {}
  | unkeyed {ds : List Deed} {isNew : Bool} {e : CryptoError}
    (hk : Keeping config keys present ds (.ok (account, isNew)))
    (hc : keys.certificate config.certKeyBits = .error e) :
    Running keys present account (entering .init :: ds) (.error (.certificateKey e.message)) {}
  | proceeding {ds es : List Deed} {isNew : Bool} {certKey : String}
    {r : Except Failure IssuedFiles} {g : Guards}
    (hk : Keeping config keys present ds (.ok (account, isNew)))
    (hc : keys.certificate config.certKeyBits = .ok certKey)
    (hp : Proceeding config ⟨config.endpoints, account⟩ isNew certKey {} es r g) :
    Running keys present account (entering .init :: (ds ++ es)) r g

variable {config}

theorem Changing.turns {steps : List FileStep} {ds : List Deed} {fault : Option SystemFault}
    (h : Changing steps ds fault) : turnsOf ds = [] := by
  induction h with
  | nil => rfl
  | stopped => rfl
  | cons _ ih => exact ih

/-- Nothing is asked of the CA before there is an account. -/
theorem Keeping.turns {keys : KeySupply} {present : Bool} {ds : List Deed}
    {r : Except Failure (Account × Bool)} (h : Keeping config keys present ds r) :
    turnsOf ds = [] := by
  cases h with
  | unsaved _ _ hs => exact hs.turns
  | unusable _ _ hs => exact hs.turns
  | saved _ _ hs => exact hs.turns
  | _ => rfl

theorem Keeping.isNew_eq {keys : KeySupply} {present isNew : Bool} {ds : List Deed}
    {account : Account} (h : Keeping config keys present ds (.ok (account, isNew))) :
    isNew = !present := by
  cases h with
  | loaded hp => rw [hp]; rfl
  | saved hp => rw [hp]; rfl

end Run

end Acme
