import Acme.Run

/-!
# What a run is put together from

Every part of a run is put together from a few steps (`Composed`). What holds of these steps, and of
steps taken one after the other, holds of every part of a run, and of the run.
-/

namespace Acme

open Session

/-- What a step may look at before it goes on. -/
def Session.known (s : Session) : Option String × Guards × FileSystem :=
  (s.nonce, s.guards, s.files)

/-- The action is put together from steps. The domains and the cursor over them are changed only if
`moving` is true. -/
inductive Composed (moving : Bool) : {ε α : Type} → Action ε α → Prop
  | pure {ε α : Type} (x : α) : Composed moving (Pure.pure x : Action ε α)
  | throw {ε α : Type} (e : ε) : Composed moving (MonadExcept.throw e : Action ε α)
  | bind {ε α β : Type} {a : Action ε α} {f : α → Action ε β} (ha : Composed moving a)
    (hf : ∀ x, Composed moving (f x)) : Composed moving (a >>= f)
  | orFail {ε δ α : Type} {a : Action ε α} (f : ε → δ) (ha : Composed moving a) :
    Composed moving (Session.orFail a f)
  | attempt {ε δ α : Type} {a : Action ε α} (ha : Composed moving a) :
    Composed moving (Session.attempt a : Action δ (Except ε α))
  | look {ε α : Type} {f : Session → Action ε α} (hf : ∀ s, Composed moving (f s))
    (hknown : ∀ s s', s.known = s'.known → f s = f s') : Composed moving (get >>= f)
  | log {ε : Type} (level : Log.Level) (message : String) (fields : List (String × Log.Value)) :
    Composed moving (Session.log level message fields : Action ε Unit)
  | enter {ε : Type} (phase : Phase) : Composed moving (Session.enter phase : Action ε Unit)
  | sleep {ε : Type} (milliseconds : Nat) :
    Composed moving (Session.sleep milliseconds : Action ε Unit)
  | keep {ε : Type} (nonce : Option String) :
    Composed moving (modify fun s => { s with nonce := nonce } : Action ε Unit)
  | mark {ε : Type} (f : Guards → Guards) :
    Composed moving (modify fun s => { s with guards := f s.guards } : Action ε Unit)
  | move {ε : Type} (hmoving : moving = true) (f : DomainList → DomainList) :
    Composed moving (modify fun s => { s with domains := f s.domains } : Action ε Unit)
  | exchange (request : Http.Request) : Composed moving (Session.exchange request)
  | change (step : FileStep) : Composed moving (Session.change step)
  /-- A key authorization is offered only when the responder listens. -/
  | serve {ε : Type} (address : Endpoint) (f : SystemFault → ε) (token authorization : String) :
    Composed moving (do
      Session.orFail (listen address) f
      offer token authorization)
  | withdraw {ε : Type} (token : String) :
    Composed moving (Session.withdraw token : Action ε Unit)
  | awaitServed {ε : Type} (token : String) :
    Composed moving (Session.awaitServed token : Action ε Unit)

namespace Composed

variable {ε α : Type} {moving : Bool}

/-! ## Requests -/

theorem send (request : Http.Request) : Composed moving (Client.send request) := by
  refine .bind (.exchange request) fun reply => ?_
  cases reply.nonce? with
  | some nonce => exact .bind (.keep (some nonce)) fun _ => .pure reply
  | none =>
    dsimp only
    split
    · exact .bind (.log _ _ _) fun _ => .pure reply
    · exact .pure reply

theorem takeHeld : Composed moving (Client.takeHeld : Action ε (Option String)) := by
  show Composed moving (do
    let s ← get
    modify fun s => { s with nonce := none }
    return s.nonce)
  refine .look (fun s => .bind (.keep none) fun _ => .pure s.nonce) fun s s' h => ?_
  rw [(Prod.mk.inj h).1]

theorem refreshNonce (client : Client) : Composed moving client.refreshNonce := by
  refine .bind (.orFail _ (send _)) fun reply => .look (fun s => ?_) fun s s' h => ?_
  · split
    · exact .throw _
    · exact .pure _
  · rw [(Prod.mk.inj h).1]

theorem takeNonce (client : Client) : Composed moving client.takeNonce := by
  refine .bind takeHeld fun held => ?_
  cases held with
  | some nonce => exact .pure nonce
  | none =>
    refine .bind (.orFail _ (send _)) fun reply => .bind takeHeld fun held => ?_
    cases held with
    | some nonce => exact .pure nonce
    | none => exact .throw _

theorem postSigned (client : Client) (url : String) (payload : Payload) :
    Composed moving (client.postSigned url payload) := by
  refine .bind (takeNonce client) fun nonce => ?_
  cases client.account.signedRequest nonce url payload with
  | error e => exact .throw e
  | ok request => exact .orFail _ (send request)

theorem getUrl (url : String) : Composed moving (Client.get url) :=
  .orFail _ (send _)

/-! ## Files -/

theorem changeAll (steps : List FileStep) : Composed moving (changeAll steps) := by
  induction steps with
  | nil => exact .pure ()
  | cons step rest ih => exact .bind (.change step) fun _ => ih

theorem writePrivate (path : Path) (contents : String) :
    Composed moving (writePrivate path contents) :=
  .orFail _ (changeAll _)

theorem writePublic (path : Path) (contents : String) :
    Composed moving (writePublic path contents) :=
  .orFail _ (changeAll _)

theorem writeCertificate (storage : Storage) (primary keyPem : String)
    (certificate : IssuedCertificate) :
    Composed moving (writeCertificate storage primary keyPem certificate) := by
  have hkey : Composed moving (storage.writeKey primary keyPem) :=
    .bind (writePrivate _ _) fun _ => .bind (.log _ _ _) fun _ => .pure _
  have hleaf : Composed moving (storage.writeCertificate primary certificate.pem) :=
    .bind (writePublic _ _) fun _ => .bind (.log _ _ _) fun _ => .pure _
  exact .bind (.orFail _ hkey) fun _ => .bind (.orFail _ hleaf) fun _ => .pure _

theorem fetchIntermediate (storage : Storage) (url : String) :
    Composed moving (fetchIntermediate storage url) := by
  refine .bind (.log _ _ _) fun _ => .bind (.orFail _ (getUrl _)) fun reply => ?_
  cases intermediateOfReply reply with
  | error reason => exact .throw _
  | ok pem =>
    have hwrite : Composed moving (storage.writeIntermediate pem) :=
      .bind (writePublic _ _) fun _ => .bind (.log _ _ _) fun _ => .pure _
    exact .orFail _ hwrite

/-! ## Authorizing -/

theorem registrationOutcome (reply : Http.Reply) : Composed moving (registrationOutcome reply) := by
  rw [Acme.registrationOutcome]
  split
  · exact .log _ _ _
  · split
    · exact .log _ _ _
    · exact .log _ _ _

theorem register (config : Config) (client : Client) :
    Composed moving (register config client) := by
  refine .bind (.enter _) fun _ => .bind (.mark fun g => { g with registered := true }) fun _ => ?_
  cases config.contact? with
  | none => exact .throw _
  | some email =>
    refine .bind (.log _ _ _) fun _ => .bind (.attempt (postSigned client _ _)) fun result => ?_
    match result with
    | .ok reply => exact registrationOutcome reply
    | .error (.noNonce reason) => exact .throw _
    | .error (.transport e) => exact .log _ _ _
    | .error (.signing e) => exact .log _ _ _

theorem requestAuthorization (client : Client) (domain : String) :
    Composed moving (requestAuthorization client domain) := by
  refine .bind (.log _ _ _) fun _ => .bind (.orFail _ (postSigned client _ _)) fun reply => ?_
  match AuthorizationReply.ofReply domain reply with
  | .error reason => exact .throw _
  | .ok (.unauthorized problem) => exact .bind (.log _ _ _) fun _ => .pure _
  | .ok (.challenge challenge) => exact .pure _

theorem obtainChallenge (config : Config) (client : Client) (index : Nat) (domain : String) :
    Composed moving (obtainChallenge config client index domain) := by
  refine .bind (.enter _) fun _ => .bind (requestAuthorization client domain) fun reply => ?_
  cases reply with
  | challenge challenge => exact .pure challenge
  | unauthorized problem =>
    refine .look (fun s => ?_) fun s s' h => ?_
    · dsimp only
      split
      · exact .throw _
      · refine .bind (.log _ _ _) fun _ => .bind (register config client) fun _ =>
          .bind (.enter _) fun _ => .bind (requestAuthorization client domain) fun reply => ?_
        cases reply with
        | challenge challenge => exact .pure challenge
        | unauthorized problem => exact .throw _
    · rw [(Prod.mk.inj (Prod.mk.inj h).2).1]

theorem pollTimes (policy : PollPolicy) (challenge : PendingChallenge) (remaining : Nat) :
    Composed moving (pollTimes policy challenge remaining) := by
  induction remaining with
  | zero => exact .throw _
  | succ remaining ih =>
    refine .bind (.orFail _ (getUrl _)) fun reply => ?_
    cases PollVerdict.ofReply challenge.domain reply with
    | valid => exact .log _ _ _
    | failed failure => exact .throw failure
    | pending =>
      dsimp only
      split
      · exact .bind (.sleep _) fun _ => ih
      · exact ih

theorem activate (client : Client) (challenge : PendingChallenge) :
    Composed moving (activate client challenge) := by
  refine .bind (.attempt (postSigned client _ _)) fun result => ?_
  match result with
  | .ok reply =>
    dsimp only
    split
    · exact .log _ _ _
    · exact .pure ()
  | .error (.noNonce reason) => exact .throw _
  | .error (.transport e) => exact .log _ _ _
  | .error (.signing e) => exact .log _ _ _

theorem completeChallenge (client : Client) (address : Endpoint) (policy : PollPolicy)
    (challenge : PendingChallenge) :
    Composed moving (completeChallenge client address policy challenge) := by
  have hdecided : Composed moving (activateAndPoll client policy challenge) :=
    .bind (activate client challenge) fun _ => .bind (.awaitServed _) fun _ =>
      pollTimes policy challenge _
  rw [Acme.completeChallenge, ← bind_assoc]
  refine .bind (.serve _ _ _ _) fun _ => .bind (.attempt hdecided) fun result =>
    .bind (.withdraw _) fun _ => ?_
  cases result with
  | ok _ => exact .pure ()
  | error failure => exact .throw failure

theorem authorizeFrom (config : Config) (client : Client) (index : Nat) (domains : List String) :
    Composed true (authorizeFrom config client index domains) := by
  induction domains generalizing index with
  | nil => exact .pure ()
  | cons domain rest ih =>
    have hfirst : Composed true (authorizeDomain config client index domain) :=
      .bind (obtainChallenge config client index domain) fun challenge =>
        .bind (completeChallenge client _ _ challenge) fun _ => .move rfl DomainList.advance
    exact .bind hfirst fun _ => ih (index + 1)

/-! ## The certificate -/

theorem requestCertificate (client : Client) (keyPem : String) (domains : List String) :
    Composed moving (requestCertificate client keyPem domains) := by
  rw [Acme.requestCertificate]
  cases CertificateRequest.create keyPem domains with
  | error e => exact .throw _
  | ok request =>
    refine .bind (.log _ _ _) fun _ => .bind (.orFail _ (postSigned client _ _)) fun reply => ?_
    match CertificateReply.ofReply client.endpoints.newCert reply with
    | .error failure => exact .throw failure
    | .ok (.unauthorized problem) => exact .bind (.log _ _ _) fun _ => .pure _
    | .ok (.issued certificate) => exact .pure _

theorem authorizeAndRequest (config : Config) (client : Client) (certKey : String) :
    Composed true (authorizeAndRequest config client certKey) := by
  have hauthorize : Composed true (authorizeDomains config client) :=
    .bind (.enter _) fun _ => .bind (.move rfl DomainList.reset) fun _ =>
      authorizeFrom config client 0 config.domains
  exact .bind hauthorize fun _ => .bind (.enter _) fun _ =>
    requestCertificate client certKey config.domains

theorem issue (config : Config) (client : Client) (certKey : String) :
    Composed true (issue config client certKey) := by
  refine .bind (authorizeAndRequest config client certKey) fun reply => ?_
  cases reply with
  | issued certificate => exact .pure certificate
  | unauthorized problem =>
    refine .bind (.log _ _ _) fun _ => .bind (.mark fun g => { g with authorized := true }) fun _ =>
      .bind (authorizeAndRequest config client certKey) fun reply => ?_
    cases reply with
    | issued certificate => exact .pure certificate
    | unauthorized problem => exact .throw _

/-! ## The run -/

theorem ensureAccountKey (config : Config) (keys : KeySupply) :
    Composed moving (ensureAccountKey config keys) := by
  have hload : Composed moving (loadAccountKey config.accountKey) := by
    refine .look (fun s => ?_) fun s s' h => ?_
    · cases storedKey s.files config.accountKey with
      | error e => exact .throw e
      | ok pem => exact .pure pem
    · rw [(Prod.mk.inj (Prod.mk.inj h).2).2]
  have hcreate : Composed moving (createAccountKey config keys) := by
    rw [createAccountKey]
    split
    · exact .throw _
    · refine .bind (.log _ _ _) fun _ => ?_
      cases keys.account config.accountKeyBits with
      | error e => exact .throw _
      | ok pem =>
        have hsave : Composed moving (saveAccountKey config.accountKey pem) :=
          .bind (writePrivate _ _) fun _ => .log _ _ _
        exact .bind (.orFail _ hsave) fun _ => .pure pem
  refine .bind (.orFail _ hload) fun stored => ?_
  cases stored with
  | some pem =>
    dsimp only
    split
    · exact .pure _
    · exact .throw _
  | none => exact .bind hcreate fun pem => .pure _

theorem ensureAccount (config : Config) (keys : KeySupply) :
    Composed moving (ensureAccount config keys) := by
  refine .bind (ensureAccountKey config keys) fun ⟨pem, isNew⟩ => ?_
  dsimp only
  cases Account.ofPem? pem with
  | none => exact .throw _
  | some account => exact .pure _

theorem runWith (config : Config) (client : Client) (isNew : Bool) (certKey : String) :
    Composed true (runWith config client isNew certKey) := by
  have henrol {K : Unit → Action Failure IssuedFiles} (hK : ∀ u, Composed true (K u)) :
      Composed true (if isNew = true then Acme.register config client >>= K else K ()) := by
    split
    · exact .bind (register config client) hK
    · exact hK ()
  refine .bind (.enter _) fun _ => .bind (refreshNonce client) fun _ => henrol fun _ => ?_
  exact .bind (issue config client certKey) fun certificate =>
    .bind (writeCertificate _ _ certKey certificate) fun _ => .bind (.enter _) fun _ =>
      .bind (fetchIntermediate _ _) fun _ => .bind (.enter _) fun _ =>
        .bind (.log _ _ _) fun _ => .pure _

theorem begin (config : Config) : Composed true (begin config) := by
  show Composed true (do
    modify fun s => { s with nonce := none }
    modify fun s => { s with guards := {} }
    modify fun s => { s with domains := ⟨config.domains, 0⟩ }
    Session.enter .init)
  exact .bind (.keep none) fun _ => .bind (.mark fun _ => {}) fun _ =>
    .bind (.move rfl fun _ => ⟨config.domains, 0⟩) fun _ => .enter _

/-- What a run does after its beginning. -/
theorem afterBegin (config : Config) (keys : KeySupply) :
    Composed true (do
      let (account, isNew) ← Acme.ensureAccount config keys
      Session.log .info "Using account key" [("thumbprint", .shown account.thumbprint)]
      match keys.certificate config.certKeyBits with
      | .error error => MonadExcept.throw (Failure.certificateKey error.message)
      | .ok certKey => Acme.runWith config ⟨config.endpoints, account⟩ isNew certKey) := by
  refine .bind (ensureAccount config keys) fun ⟨account, isNew⟩ =>
    .bind (.log _ _ _) fun _ => ?_
  cases keys.certificate config.certKeyBits with
  | error e => exact .throw _
  | ok certKey => exact runWith config _ isNew certKey

theorem run (config : Config) (keys : KeySupply) : Composed true (run config keys) :=
  .bind (begin config) fun _ => afterBegin config keys

end Composed

end Acme
