import Acme.Proofs.CertificateRequest.Usable
import Acme.Proofs.Run.Effects
import Acme.Proofs.Run.Signing
import Acme.Proofs.Session.Basis

/-!
# Runs that succeed

A CA plays along that hands out a nonce with every reply, offers a challenge for every domain, finds
each of them valid before the polls are spent, and issues the certificate with a link to that of its
issuer. Then a run succeeds whose keys can sign, whose files can be written, and whose responder can
be made to listen (`run_succeeds`). Every part of a run takes the replies that are meant for it, and
leaves the others (`Achieves`).

Main definitions: `Achieves`, `Ready`, `Run.Courtesy` and `Run.Unhindered`.
-/

namespace Acme

open Session

/-! ## Actions that succeed -/

/-- From every world of one kind, with the nonce that is held, the action succeeds, and it leaves a
world of another kind. -/
def Achieves {ε α : Type} (P : World → Option String → Prop) (a : Action ε α) (x : α)
    (Q : World → Option String → Prop) : Prop :=
  ∀ s : Session, P s.world s.nonce →
    s.outcome a = .ok x ∧ Q (s.after a).world (s.after a).nonce

namespace Achieves

variable {ε δ α β : Type} {P Q R : World → Option String → Prop} {a : Action ε α} {x : α}

theorem bind {f : α → Action ε β} {y : β} (ha : Achieves P a x Q) (hf : Achieves Q (f x) y R) :
    Achieves P (a >>= f) y R := by
  intro s hs
  obtain ⟨houtcome, hafter⟩ := ha s hs
  rw [outcome_bind_of_ok f houtcome, after_bind_of_ok f houtcome]
  exact hf _ hafter

theorem orFail (f : ε → δ) (ha : Achieves P a x Q) : Achieves P (Session.orFail a f) x Q := by
  intro s hs
  obtain ⟨houtcome, hafter⟩ := ha s hs
  rw [outcome_orFail, after_orFail, houtcome]
  exact ⟨rfl, hafter⟩

theorem attempt (ha : Achieves P a x Q) :
    Achieves P (Session.attempt a : Action δ _) (.ok x) Q := by
  intro s hs
  obtain ⟨houtcome, hafter⟩ := ha s hs
  rw [outcome_attempt, after_attempt, houtcome]
  exact ⟨rfl, hafter⟩

theorem pure : Achieves P (Pure.pure x : Action ε α) x P :=
  fun _ hs => ⟨rfl, hs⟩

/-- A step that changes neither the world nor the nonce. -/
theorem still (h : ∀ s : Session, s.outcome a = .ok x ∧ (s.after a).world = s.world
    ∧ (s.after a).nonce = s.nonce) : Achieves P a x P := by
  intro s hs
  obtain ⟨houtcome, hworld, hnonce⟩ := h s
  rw [hworld, hnonce]
  exact ⟨houtcome, hs⟩

theorem log (level : Log.Level) (message : String) (fields : List (String × Log.Value)) :
    Achieves P (Session.log level message fields : Action ε Unit) () P :=
  still fun _ => ⟨rfl, rfl, rfl⟩

theorem enter (phase : Phase) : Achieves P (Session.enter phase : Action ε Unit) () P :=
  still fun _ => ⟨rfl, rfl, rfl⟩

theorem awaitServed (token : String) :
    Achieves P (Session.awaitServed token : Action ε Unit) () P := by
  refine still fun s => ?_
  obtain ⟨houtcome, hbasis, _⟩ := awaitServed_spec (ε := ε) s token
  exact ⟨houtcome, congrArg Basis.world hbasis, congrArg Basis.nonce hbasis⟩

end Achieves

/-! ## What a CA says -/

/-- The CA is going to give these replies, each with a nonce, and nothing stands in the way of what
is done with the files or with the responder. -/
structure Ready (isHeld : Bool) (replies : List Http.Reply) (files : FileSystem) (w : World)
    (nonce : Option String) : Prop where
  outcomes : w.outcomes = replies.map .ok
  nonces : ∀ reply ∈ replies, reply.nonce? ≠ none
  files : w.files = files
  allowed : ∀ step, w.refusal step = none
  free : w.hindrance = none
  held : isHeld = true → ∃ n, nonce = some n ∧ n ≠ ""

/-- Replies to the polls of a challenge, so many at most: it is pending, and valid in the end. -/
inductive Approves (domain : String) : Nat → List Http.Reply → Prop
  | valid {remaining : Nat} {reply : Http.Reply} (h : PollVerdict.ofReply domain reply = .valid) :
    Approves domain (remaining + 1) [reply]
  | pending {remaining : Nat} {reply : Http.Reply} {replies : List Http.Reply}
    (h : PollVerdict.ofReply domain reply = .pending) (hr : Approves domain remaining replies) :
    Approves domain (remaining + 1) (reply :: replies)

/-- What a CA says that authorizes one domain after the other. -/
inductive Clears (maxPolls : Nat) : List String → List Http.Reply → Prop
  | nil : Clears maxPolls [] []
  | cons {domain : String} {domains : List String} {challenge : PendingChallenge}
    {offer activation : Http.Reply} {polls replies : List Http.Reply}
    (ho : AuthorizationReply.ofReply domain offer = .ok (.challenge challenge))
    (hp : Approves challenge.domain maxPolls polls) (hr : Clears maxPolls domains replies) :
    Clears maxPolls (domain :: domains) (offer :: activation :: polls ++ replies)

variable {isHeld : Bool} {reply : Http.Reply} {replies : List Http.Reply}
  {files files' : FileSystem} {client : Client} {policy : PollPolicy} {challenge : PendingChallenge}
  {config : Config} {domain : String}

/-! ## Replies that are taken -/

theorem send_achieves (request : Http.Request) :
    Achieves (Ready isHeld (reply :: replies) files) (Client.send request) reply
      (Ready true replies files) := by
  intro s hs
  have hbasis := basis_exchange s request
  have houtcome : s.outcome (exchange request) = .ok reply := by
    rw [outcome_exchange, (basis_nextAnswer s request).1, World.reply, basis, hs.outcomes]
    rfl
  obtain ⟨entries, hsent⟩ := Client.send_of_reply houtcome
  obtain ⟨nonce, hnonce⟩ := Option.ne_none_iff_exists'.1 (hs.nonces reply List.mem_cons_self)
  have hworld : (s.after (Client.send request)).world
      = { s.world with outcomes := s.world.outcomes.tail } := by
    rw [after_of_ok hsent]
    exact congrArg Basis.world hbasis
  refine ⟨outcome_of_ok hsent, ?_⟩
  rw [hworld]
  constructor
  case outcomes =>
    rw [hs.outcomes]
    rfl
  case nonces => exact fun other hother => hs.nonces other (List.mem_cons_of_mem _ hother)
  case files => exact hs.files
  case allowed => exact hs.allowed
  case free => exact hs.free
  case held =>
    intro _
    refine ⟨nonce, ?_, ?_⟩
    · rw [after_of_ok hsent, hnonce]
      rfl
    · rw [Http.Reply.nonce?, Option.filter_eq_some_iff] at hnonce
      exact of_decide_eq_true hnonce.2

theorem refreshNonce_achieves (client : Client) :
    Achieves (Ready isHeld (reply :: replies) files) client.refreshNonce ()
      (Ready true replies files) := by
  refine ((send_achieves _).orFail _).bind ?_
  intro s hs
  obtain ⟨nonce, hnonce, _⟩ := hs.held rfl
  have hget : s.outcome (get : Action Failure Session) = .ok s := rfl
  rw [outcome_bind_of_ok _ hget, after_bind_of_ok _ hget, if_neg (by rw [hnonce]; exact nofun)]
  exact ⟨rfl, hs⟩

theorem get_achieves (url : String) :
    Achieves (Ready isHeld (reply :: replies) files) (Client.get url) reply
      (Ready true replies files) :=
  (send_achieves _).orFail _

theorem pollTimes_achieves {remaining : Nat} {polls : List Http.Reply}
    (h : Approves challenge.domain remaining polls) :
    Achieves (Ready isHeld (polls ++ replies) files) (pollTimes policy challenge remaining) ()
      (Ready true replies files) := by
  induction h generalizing isHeld with
  | valid hv =>
    refine ((get_achieves _).orFail _).bind ?_
    rw [hv]
    exact .log _ _ _
  | @pending remaining _ _ hv hr ih =>
    refine ((get_achieves _).orFail _).bind ?_
    rw [hv]
    dsimp only
    split
    · exact (Achieves.still fun _ => ⟨rfl, rfl, rfl⟩).bind ih
    · exact ih

theorem listen_achieves (address : Endpoint) :
    Achieves (Ready isHeld replies files) (listen address) () (Ready isHeld replies files) := by
  intro s hs
  obtain ⟨houtcome, hbasis, _⟩ := listen_spec s address
  rw [hs.free] at houtcome
  rw [show (s.after (listen address)).world = s.world from congrArg Basis.world hbasis,
    show (s.after (listen address)).nonce = s.nonce from congrArg Basis.nonce hbasis]
  exact ⟨houtcome, hs⟩

section Signed

variable (hsigns : ∀ message, client.account.key.CanSign message)

include hsigns

theorem postSigned_achieves (url : String) (payload : Payload) :
    Achieves (Ready true (reply :: replies) files) (client.postSigned url payload) reply
      (Ready true replies files) := by
  intro s hs
  obtain ⟨nonce, hnonce, hne⟩ := hs.held rfl
  obtain ⟨request, hrequest⟩ :=
    signedRequest_of_canSign url hne (hsigns (client.account.signingInput nonce payload))
  have htaken := client.takeNonce_of_held s hnonce
  have hready : Ready false (reply :: replies) files ({ s with nonce := none } : Session).world none :=
    ⟨hs.outcomes, hs.nonces, hs.files, hs.allowed, hs.free, nofun⟩
  unfold Client.postSigned
  rw [outcome_bind_of_ok _ (outcome_of_ok htaken), after_bind_of_ok _ (outcome_of_ok htaken),
    after_of_ok htaken, hrequest]
  exact (send_achieves request).orFail RequestError.transport _ hready

/-! ## Authorizing -/

theorem requestAuthorization_achieves
    (h : AuthorizationReply.ofReply domain reply = .ok (.challenge challenge)) :
    Achieves (Ready true (reply :: replies) files) (requestAuthorization client domain)
      (.challenge challenge) (Ready true replies files) := by
  refine (Achieves.log _ _ _).bind (((postSigned_achieves hsigns _ _).orFail _).bind ?_)
  rw [h]
  exact .pure

theorem obtainChallenge_achieves (config : Config) (index : Nat)
    (h : AuthorizationReply.ofReply domain reply = .ok (.challenge challenge)) :
    Achieves (Ready true (reply :: replies) files) (obtainChallenge config client index domain)
      challenge (Ready true replies files) := by
  refine (Achieves.enter _).bind ((requestAuthorization_achieves hsigns h).bind ?_)
  exact .pure

/-- Whatever is replied to the activation of a challenge. -/
theorem activate_achieves (challenge : PendingChallenge) :
    Achieves (Ready true (reply :: replies) files) (activate client challenge) ()
      (Ready true replies files) := by
  refine (postSigned_achieves hsigns _ _).attempt.bind ?_
  dsimp only
  split
  · exact .log _ _ _
  · exact .pure

theorem completeChallenge_achieves (address : Endpoint) {polls : List Http.Reply}
    (h : Approves challenge.domain policy.maxPolls polls) :
    Achieves (Ready true (reply :: polls ++ replies) files)
      (completeChallenge client address policy challenge) () (Ready true replies files) := by
  have hcompleted : Achieves (Ready true (reply :: polls ++ replies) files)
      (activateAndPoll client policy challenge) () (Ready true replies files) :=
    (activate_achieves hsigns challenge).bind ((Achieves.awaitServed _).bind (pollTimes_achieves h))
  refine ((listen_achieves address).orFail _).bind ?_
  refine (Achieves.still fun _ => ⟨rfl, rfl, rfl⟩).bind ?_
  refine hcompleted.attempt.bind ?_
  exact (Achieves.still fun _ => ⟨rfl, rfl, rfl⟩).bind .pure

theorem authorizeFrom_achieves {domains : List String} {cleared : List Http.Reply} {index : Nat}
    (h : Clears config.policy.maxPolls domains cleared) :
    Achieves (Ready true (cleared ++ replies) files) (authorizeFrom config client index domains) ()
      (Ready true replies files) := by
  -- On what the CA says: a domain takes the replies that are meant for it, whatever follows them.
  induction h generalizing index with
  | nil => exact .pure
  | @cons domain domains challenge offer activation polls rest ho hp hr ih =>
    have hdomain : Achieves
        (Ready true (offer :: (activation :: polls ++ (rest ++ replies))) files)
        (authorizeDomain config client index domain) () (Ready true (rest ++ replies) files) := by
      refine (obtainChallenge_achieves hsigns config index ho).bind ?_
      refine (completeChallenge_achieves hsigns _ hp).bind ?_
      exact .still fun _ => ⟨rfl, rfl, rfl⟩
    have hreplies : offer :: activation :: polls ++ rest ++ replies
        = offer :: (activation :: polls ++ (rest ++ replies)) := by
      simp only [List.cons_append, List.append_assoc]
    rw [hreplies]
    exact hdomain.bind ih

theorem authorizeDomains_achieves {cleared : List Http.Reply}
    (h : Clears config.policy.maxPolls config.domains cleared) :
    Achieves (Ready true (cleared ++ replies) files) (authorizeDomains config client) ()
      (Ready true replies files) := by
  refine (Achieves.enter _).bind ((Achieves.still fun _ => ⟨rfl, rfl, rfl⟩).bind ?_)
  exact authorizeFrom_achieves hsigns h

/-! ## Registering and issuing -/

/-- Whatever is replied to a registration. -/
theorem register_achieves (h : config.contact? ≠ none) :
    Achieves (Ready true (reply :: replies) files) (register config client) ()
      (Ready true replies files) := by
  obtain ⟨email, hemail⟩ := Option.ne_none_iff_exists'.1 h
  refine (Achieves.enter _).bind ((Achieves.still fun _ => ⟨rfl, rfl, rfl⟩).bind ?_)
  rw [hemail]
  refine (Achieves.log _ _ _).bind ((postSigned_achieves hsigns _ _).attempt.bind ?_)
  dsimp only
  unfold registrationOutcome
  split
  · exact .log _ _ _
  · split
    · exact .log _ _ _
    · exact .log _ _ _

variable {certKey : String} {certificate : IssuedCertificate}

theorem requestCertificate_achieves {domains : List String}
    (hcreate : ∃ request, CertificateRequest.create certKey domains = .ok request)
    (h : CertificateReply.ofReply client.endpoints.newCert reply = .ok (.issued certificate)) :
    Achieves (Ready true (reply :: replies) files) (requestCertificate client certKey domains)
      (.issued certificate) (Ready true replies files) := by
  obtain ⟨request, hrequest⟩ := hcreate
  unfold requestCertificate
  rw [hrequest]
  refine (Achieves.log _ _ _).bind (((postSigned_achieves hsigns _ _).orFail _).bind ?_)
  rw [h]
  exact .pure

theorem issue_achieves {cleared : List Http.Reply}
    (hcleared : Clears config.policy.maxPolls config.domains cleared)
    (hcreate : ∃ request, CertificateRequest.create certKey config.domains = .ok request)
    (h : CertificateReply.ofReply client.endpoints.newCert reply = .ok (.issued certificate)) :
    Achieves (Ready true (cleared ++ reply :: replies) files) (issue config client certKey)
      certificate (Ready true replies files) := by
  have hrequested : Achieves (Ready true (cleared ++ reply :: replies) files)
      (authorizeAndRequest config client certKey) (.issued certificate)
      (Ready true replies files) := by
    refine (authorizeDomains_achieves hsigns hcleared).bind ((Achieves.enter _).bind ?_)
    exact requestCertificate_achieves hsigns hcreate h
  exact hrequested.bind .pure

end Signed

/-! ## Writing -/

theorem changeAll_achieves {steps : List FileStep} (h : Write.Calling files steps none files') :
    Achieves (Ready isHeld replies files) (changeAll steps) () (Ready isHeld replies files') := by
  generalize hfault : none = fault at h
  induction h with
  | nil => exact .pure
  | stopped => cases hfault
  | @cons fs fs' _ step _ _ hstep _ ih =>
    have hchanged : Achieves (Ready isHeld replies fs) (change step) ()
        (Ready isHeld replies fs') := by
      intro s hs
      have hfiles : s.files = fs := hs.files
      have hrun : step.run s.files = .ok () fs' := by
        rw [hfiles]
        cases hstep with
        | done hrun => exact hrun
      have hallowed : s.refusal step = none := hs.allowed step
      have hchanging : changing s.refusal s.files step = (none, fs') := by
        rw [changing, hallowed]
        dsimp only
        rw [hrun]
      rw [outcome_change, after_change, hchanging]
      exact ⟨rfl, hs.outcomes, hs.nonces, rfl, hs.allowed, hs.free, hs.held⟩
    exact hchanged.bind (ih hfault)

namespace Run

theorem writeCertificate_achieves {certKey : String} {certificate : IssuedCertificate}
    {files₁ files₂ : FileSystem}
    (hkey : Write.Calling files (keyWrite config certKey).steps none files₁)
    (hleaf : Write.Calling files₁ (leafWrite config certificate.pem).steps none files₂) :
    Achieves (Ready isHeld replies files)
      (writeCertificate ⟨config.destination⟩ (config.domains.headD "") certKey certificate)
      ((Run.files config).keyPath, (Run.files config).certPath) (Ready isHeld replies files₂) := by
  have hkeyWritten : Achieves (Ready isHeld replies files)
      ((Storage.mk config.destination).writeKey (config.domains.headD "") certKey)
      (Run.files config).keyPath (Ready isHeld replies files₁) :=
    ((changeAll_achieves hkey).orFail _).bind ((Achieves.log _ _ _).bind .pure)
  have hleafWritten : Achieves (Ready isHeld replies files₁)
      ((Storage.mk config.destination).writeCertificate (config.domains.headD "") certificate.pem)
      (Run.files config).certPath (Ready isHeld replies files₂) :=
    ((changeAll_achieves hleaf).orFail _).bind ((Achieves.log _ _ _).bind .pure)
  exact (hkeyWritten.orFail _).bind ((hleafWritten.orFail _).bind .pure)

theorem fetchIntermediate_achieves {url issuer : String}
    (h : intermediateOfReply reply = .ok issuer)
    (hwrite : Write.Calling files (issuerWrite config issuer).steps none files') :
    Achieves (Ready isHeld (reply :: replies) files) (fetchIntermediate ⟨config.destination⟩ url)
      (Run.files config).intermediatePath (Ready true replies files') := by
  have hwritten : Achieves (Ready true replies files)
      ((Storage.mk config.destination).writeIntermediate issuer)
      (Run.files config).intermediatePath (Ready true replies files') :=
    ((changeAll_achieves hwrite).orFail _).bind ((Achieves.log _ _ _).bind .pure)
  refine (Achieves.log _ _ _).bind (((get_achieves _).orFail _).bind ?_)
  rw [h]
  exact hwritten.orFail _

/-! ## The run -/

/-- The account key that a run works with: the stored one, or a new one with which the account can
be registered. -/
inductive Supplies (config : Config) (keys : KeySupply) (files : FileSystem) :
    Bool → String → Prop
  | stored {pem : String} (h : storedKey files config.accountKey = .ok (some pem)) :
    Supplies config keys files false pem
  | made {pem : String} (h : storedKey files config.accountKey = .ok none)
    (hcontact : config.contact? ≠ none) (hpem : keys.account config.accountKeyBits = .ok pem) :
    Supplies config keys files true pem

theorem loadAccountKey_achieves {path : Path} {found : Option String}
    (h : storedKey files path = .ok found) :
    Achieves (Ready isHeld replies files) (loadAccountKey path) found
      (Ready isHeld replies files) := by
  intro s hs
  obtain ⟨houtcome, hafter⟩ := outcome_loadAccountKey (s := s) path
  rw [show s.files = files from hs.files, h] at houtcome
  rw [hafter]
  exact ⟨houtcome, hs⟩

theorem ensureAccount_achieves {keys : KeySupply} {isNew : Bool} {pem : String}
    {key : Rsa.PrivateKey} (h : Supplies config keys files isNew pem)
    (hkey : Rsa.readKey pem = .ok key)
    (hwrites : Write.Calling files ((accountWrites config isNew pem).flatMap Write.steps) none
      files') :
    Achieves (Ready isHeld replies files) (ensureAccount config keys) (⟨key⟩, isNew)
      (Ready isHeld replies files') := by
  have hensured : Achieves (Ready isHeld replies files) (ensureAccountKey config keys) (pem, isNew)
      (Ready isHeld replies files') := by
    cases h with
    | stored hstored =>
      refine ((loadAccountKey_achieves hstored).orFail _).bind ?_
      dsimp only
      rw [if_pos (Rsa.isValidKey_iff.2 ⟨key, hkey⟩)]
      cases hwrites with
      | nil => exact .pure
    | made hnone hcontact hpem =>
      rw [accountWrites, if_pos rfl, List.flatMap_singleton] at hwrites
      have hsaved : Achieves (Ready isHeld replies files) (saveAccountKey config.accountKey pem) ()
          (Ready isHeld replies files') :=
        ((changeAll_achieves hwrites).orFail _).bind (Achieves.log _ _ _)
      have hmade : Achieves (Ready isHeld replies files) (createAccountKey config keys) pem
          (Ready isHeld replies files') := by
        unfold createAccountKey
        rw [if_neg hcontact]
        refine (Achieves.log _ _ _).bind ?_
        rw [hpem]
        exact (hsaved.orFail _).bind .pure
      refine ((loadAccountKey_achieves hnone).orFail _).bind ?_
      exact hmade.bind .pure
  refine hensured.bind ?_
  dsimp only
  rw [account_ofPem?_eq_some_iff.2 hkey]
  exact .pure

/-- What a CA says that plays along with a run. -/
structure Courtesy where
  greeting : Http.Reply
  /-- The reply to a registration, if there is one. -/
  enrolment : Http.Reply
  authorizations : List Http.Reply
  certificate : Http.Reply
  issuer : Http.Reply

def Courtesy.script (c : Courtesy) (isNew : Bool) : List Http.Reply :=
  c.greeting :: ((if isNew then [c.enrolment] else [])
    ++ (c.authorizations ++ [c.certificate, c.issuer]))

/-- Nothing stands in the way of a run: the keys are there and can be used, the CA plays along, the
files can be written, and the responder can be made to listen. -/
structure Unhindered (config : Config) (keys : KeySupply) (s : Session) (c : Courtesy)
    (isNew : Bool) (contents : Contents) (issuerUrl : String) (files' : FileSystem) : Prop where
  supplies : Supplies config keys s.files isNew contents.accountKey
  signs : ∃ key, Rsa.readKey contents.accountKey = .ok key ∧ ∀ message, key.CanSign message
  certKey : keys.certificate config.certKeyBits = .ok contents.certKey
  request : ∃ request, CertificateRequest.create contents.certKey config.domains = .ok request
  outcomes : s.answers.map Answer.outcome = (c.script isNew).map .ok
  nonces : ∀ reply ∈ c.script isNew, reply.nonce? ≠ none
  authorizations : Clears config.policy.maxPolls config.domains c.authorizations
  certificate : CertificateReply.ofReply config.endpoints.newCert c.certificate
    = .ok (.issued ⟨contents.leaf, issuerUrl⟩)
  issuer : intermediateOfReply c.issuer = .ok contents.issuer
  writes : Write.Calling s.files ((allWrites config isNew contents).flatMap Write.steps) none files'
  allowed : ∀ step, s.refusal step = none
  free : s.world.hindrance = none

variable {keys : KeySupply} {s : Session} {c : Courtesy} {isNew : Bool} {contents : Contents}
  {issuerUrl : String}

theorem runWith_achieves (h : Unhindered config keys s c isNew contents issuerUrl files')
    (hendpoints : client.endpoints = config.endpoints)
    (hsigns : ∀ message, client.account.key.CanSign message)
    (hwrites : Write.Calling files ((outputWrites config contents.certKey contents.leaf
      contents.issuer).flatMap Write.steps) none files') :
    Achieves (Ready false (c.script isNew) files)
      (runWith config client isNew contents.certKey) (Run.files config)
      (Ready true [] files') := by
  rw [outputWrites, List.flatMap_cons, List.flatMap_cons, List.flatMap_singleton] at hwrites
  obtain ⟨files₁, hkey, hmore⟩ := hwrites.split
  obtain ⟨files₂, hleaf, hissuer⟩ := hmore.split
  have hissued : Achieves (Ready true (c.authorizations ++ [c.certificate, c.issuer]) files)
      (issue config client contents.certKey) ⟨contents.leaf, issuerUrl⟩
      (Ready true [c.issuer] files) :=
    issue_achieves hsigns h.authorizations h.request (hendpoints ▸ h.certificate)
  have hwritten : Achieves (Ready true [c.issuer] files)
      (writeCertificate ⟨config.destination⟩ (config.domains.headD "") contents.certKey
        ⟨contents.leaf, issuerUrl⟩)
      ((Run.files config).keyPath, (Run.files config).certPath) (Ready true [c.issuer] files₂) :=
    writeCertificate_achieves hkey hleaf
  have hfetched : Achieves (Ready true [c.issuer] files₂)
      (fetchIntermediate ⟨config.destination⟩ issuerUrl) (Run.files config).intermediatePath
      (Ready true [] files') :=
    fetchIntermediate_achieves h.issuer hissuer
  -- What is done once the account is known, whether that took a registration or not.
  have hopened {k : Action Failure IssuedFiles}
      (hk : Achieves (Ready true (c.authorizations ++ [c.certificate, c.issuer]) files) k
        (Run.files config) (Ready true [] files')) :
      Achieves (Ready false (c.script isNew) files)
        (client.refreshNonce >>= fun _ =>
          if isNew = true then register config client >>= fun _ => k else k)
        (Run.files config) (Ready true [] files') := by
    refine (refreshNonce_achieves _).bind ?_
    cases isNew with
    | false => exact hk
    | true =>
      have hcontact : config.contact? ≠ none := by
        cases h.supplies with
        | made _ hcontact _ => exact hcontact
      exact (register_achieves hsigns hcontact).bind hk
  refine (Achieves.enter _).bind (hopened ?_)
  refine hissued.bind (hwritten.bind ((Achieves.enter _).bind (hfetched.bind ?_)))
  exact (Achieves.enter _).bind ((Achieves.log _ _ _).bind .pure)

/-- A run in whose way nothing stands succeeds, and its files are written. -/
theorem run_succeeds (h : Unhindered config keys s c isNew contents issuerUrl files') :
    s.outcome (run config keys) = .ok (Run.files config)
      ∧ (s.after (run config keys)).files = files' := by
  obtain ⟨key, hkey, hsigns⟩ := h.signs
  have hwrites := h.writes
  rw [allWrites, List.flatMap_append] at hwrites
  obtain ⟨files₁, haccount, houtputs⟩ := hwrites.split
  have hbegun : Achieves (Ready false (c.script isNew) s.files) (begin config) ()
      (Ready false (c.script isNew) s.files) :=
    fun t ht => ⟨rfl, ht.outcomes, ht.nonces, ht.files, ht.allowed, ht.free, nofun⟩
  have hrun : Achieves (Ready false (c.script isNew) s.files) (run config keys) (Run.files config)
      (Ready true [] files') := by
    refine hbegun.bind ((ensureAccount_achieves h.supplies hkey haccount).bind ?_)
    refine (Achieves.log _ _ _).bind ?_
    rw [h.certKey]
    exact runWith_achieves h rfl hsigns houtputs
  obtain ⟨houtcome, hafter⟩ :=
    hrun s ⟨h.outcomes, h.nonces, rfl, h.allowed, h.free, nofun⟩
  exact ⟨houtcome, hafter.files⟩

/-! ## A run over two domains -/

def prothKeys : KeySupply :=
  ⟨fun _ => .ok Rsa.PrivateKey.prothPem, fun _ => .ok Rsa.PrivateKey.prothPem⟩

/-- Two domains, a contact, and two polls for each challenge. -/
def twoDomains : Config where
  domains := ["a.test", "b.test"]
  email := some "admin@a.test"
  accountKey := ⟨"/account.key"⟩
  destination := ⟨"/"⟩
  caUrl := "https://[2001:db8::1]"
  policy := { maxPolls := 2 }

/-- A reply that hands out a nonce. -/
def handing (count status : Nat) (body : Octets) : Http.Reply where
  status := status
  headers := [⟨nonceHeader, Octets.ofText ("nonce" ++ toString count)⟩]
  body := body

def offerBody (token : String) : Octets :=
  (Json.Value.object [("challenges", .array [.object [("type", .text Challenge.http01Kind),
    ("uri", .text (twoDomains.caUrl ++ "/" ++ token)), ("token", .text token)]])]).toOctets

def stateBody (state : ChallengeStatus) : Octets :=
  (Json.Value.object [("status", .text state.name)]).toOctets

/-- The first challenge is pending once, and the second is valid at once. -/
def courtesy : Courtesy where
  greeting := handing 0 200 []
  enrolment := handing 1 201 []
  authorizations :=
    [handing 2 201 (offerBody "t0"), handing 3 202 [], handing 4 200 (stateBody .pending),
      handing 5 200 (stateBody .valid), handing 6 201 (offerBody "t1"), handing 7 202 [],
      handing 8 200 (stateBody .valid)]
  certificate :=
    { status := 201
      headers := [⟨nonceHeader, Octets.ofText "nonce9"⟩,
        ⟨"Link", Octets.ofText ("<" ++ twoDomains.caUrl ++ "/issuer>;rel=\"up\"")⟩]
      body := [0x30, 0x03] }
  issuer := handing 10 200 [0x30, 0x04]

def courtesyContents : Contents where
  accountKey := Rsa.PrivateKey.prothPem
  certKey := Rsa.PrivateKey.prothPem
  leaf := certificatePem courtesy.certificate.body
  issuer := certificatePem courtesy.issuer.body

/-- A new session in which the CA plays along, with these visitors during each request. -/
def obliging (visits : List Visit) : Session where
  answers := (courtesy.script true).map fun reply => ⟨visits, .ok reply⟩

theorem clears_twoDomains :
    Clears twoDomains.policy.maxPolls twoDomains.domains courtesy.authorizations := by
  have hoffer₀ : AuthorizationReply.ofReply "a.test" (handing 2 201 (offerBody "t0"))
      = .ok (.challenge ⟨"a.test", "t0", twoDomains.caUrl ++ "/t0"⟩) := by decide +kernel
  have hoffer₁ : AuthorizationReply.ofReply "b.test" (handing 6 201 (offerBody "t1"))
      = .ok (.challenge ⟨"b.test", "t1", twoDomains.caUrl ++ "/t1"⟩) := by decide +kernel
  have hpending : PollVerdict.ofReply "a.test" (handing 4 200 (stateBody .pending)) = .pending := by
    decide +kernel
  have hvalid₀ : PollVerdict.ofReply "a.test" (handing 5 200 (stateBody .valid)) = .valid := by
    decide +kernel
  have hvalid₁ : PollVerdict.ofReply "b.test" (handing 8 200 (stateBody .valid)) = .valid := by
    decide +kernel
  exact .cons hoffer₀ (.pending hpending (.valid hvalid₀)) (.cons hoffer₁ (.valid hvalid₁) .nil)

theorem unhindered_twoDomains (visits : List Visit) :
    ∃ files', Unhindered twoDomains prothKeys (obliging visits) courtesy true courtesyContents
      (twoDomains.caUrl ++ "/issuer") files' := by
  have hcalls : (Write.callAll? {}
      ((allWrites twoDomains true courtesyContents).flatMap Write.steps)).isSome = true := by
    decide +kernel
  obtain ⟨files', hfiles⟩ := Option.isSome_iff_exists.1 hcalls
  have hread : Rsa.readKey Rsa.PrivateKey.prothPem = .ok Rsa.PrivateKey.prothKey :=
    Rsa.readKey_eq_ok_iff.2 Rsa.PrivateKey.ofPem?_prothPem
  refine ⟨files', ?_⟩
  constructor
  case supplies =>
    have hunsaved : storedKey {} twoDomains.accountKey = .ok none := by decide +kernel
    exact .made hunsaved (by decide +kernel) rfl
  case signs => exact ⟨_, hread, Rsa.PrivateKey.canSign_prothKey⟩
  case certKey => rfl
  case request =>
    exact (CertificateRequest.create_of_isGenerated Rsa.PrivateKey.isGenerated_prothKey
      Rsa.PrivateKey.pkcs8Pem?_prothKey (by decide) (by decide)).2 (by decide +kernel)
  case outcomes =>
    rw [obliging, List.map_map]
    rfl
  case nonces => decide +kernel
  case authorizations => exact clears_twoDomains
  case certificate => decide +kernel
  case issuer => decide +kernel
  case writes => exact Write.calling_of_callAll? hfiles
  case allowed => exact fun _ => rfl
  case free => rfl

/-- The CA plays along with a new account and two domains, whoever visits the responder. -/
theorem run_twoDomains_succeeds (visits : List Visit) :
    (obliging visits).outcome (run twoDomains prothKeys) = .ok (Run.files twoDomains) := by
  obtain ⟨files', h⟩ := unhindered_twoDomains visits
  exact (run_succeeds h).1

end Run

end Acme
