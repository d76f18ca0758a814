import Acme.Proofs.Run.Follows
import Acme.Proofs.Run.Language
import Mathlib.Algebra.Order.Group.Multiset
import Mathlib.Algebra.Order.Monoid.Unbundled.Pow
import Mathlib.Tactic.Ring

/-!
# Bounds on the requests of a run

What a request is for can be read off the request: its method, and the resource that its payload
names. What a run asks for is a multiset of such errands, and every part of the run has an allowance
for them (`Spends`). The correction of a registration is paid for once, by the guard that it sets.
-/

namespace Acme

open Json

/-! ## Errands -/

/-- What a request is for. -/
structure Errand where
  method : Http.Method
  resource : Option String := none
  deriving DecidableEq

namespace Errand

def nonce : Errand := ⟨.head, none⟩
def fetch : Errand := ⟨.get, none⟩
def registration : Errand := ⟨.post, some "new-reg"⟩
def authorization : Errand := ⟨.post, some "new-authz"⟩
def activation : Errand := ⟨.post, some "challenge"⟩
def certificate : Errand := ⟨.post, some "new-cert"⟩

/-- The errand has to be signed. -/
def IsPost (errand : Errand) : Prop :=
  errand.method = .post

instance : DecidablePred IsPost :=
  fun errand => inferInstanceAs (Decidable (errand.method = .post))

end Errand

/-- The resource that a JSON object names. -/
def Json.Document.resource? (v : Document) : Option String := do
  match ← v.fields? ["resource"] with
  | [some resource] => resource.text?
  | _ => none

/-- The resource that the payload of a POST names. -/
def Http.Request.resource? (request : Http.Request) : Option String := do
  guard (request.method = .post)
  (← Document.parse? (← (← Envelope.ofBody? (← request.body)).payload?)).resource?

def Http.Request.errand (request : Http.Request) : Errand :=
  ⟨request.method, request.resource?⟩

def Ask.errand : Ask → Errand
  | .nonce => .nonce
  | .plain _ => .fetch
  | .signed _ payload => ⟨.post, payload.toJson.document.resource?⟩

theorem resource?_object (resource : String) (members : List (String × Value))
    (h : ∀ m ∈ members, m.1 ≠ "resource") :
    (Value.object (("resource", .text resource) :: members)).document.resource?
      = some resource := by
  have hothers : (members.map fun m => (m.1, m.2.document)).filter (fun m => m.1 = "resource")
      = [] := by
    rw [List.filter_eq_nil_iff]
    intro m hm
    obtain ⟨m', hm', rfl⟩ := List.mem_map.1 hm
    simpa using h m' hm'
  rw [Document.resource?, fields?_document]
  simp [Document.pick?, hothers]

theorem resource?_of_ne_post {request : Http.Request} (h : request.method ≠ .post) :
    request.resource? = none := by
  simp [Http.Request.resource?, guard, h]

theorem resource?_signedRequest {account : Account} {nonce url : String} {payload : Payload}
    {request : Http.Request} (h : account.signedRequest nonce url payload = .ok request) :
    request.resource? = payload.toJson.document.resource? := by
  obtain ⟨_, envelope, hseal, rfl⟩ := signedRequest_eq_ok h
  obtain ⟨signature, _, hseal⟩ := Option.bind_eq_some_iff.1 hseal
  cases hseal
  simp [Http.Request.resource?, guard, Envelope.ofBody?_toOctets, Envelope.payload?,
    Base64.decode?_url, parse?_toOctets]

/-- A request is for what is asked. -/
theorem Client.Requests.errand {client : Client} {ask : Ask} {request : Http.Request}
    (h : client.Requests ask request) : request.errand = ask.errand := by
  cases ask with
  | nonce =>
    cases h
    exact congrArg (Errand.mk _) (resource?_of_ne_post Http.Method.noConfusion)
  | plain url =>
    cases h
    exact congrArg (Errand.mk _) (resource?_of_ne_post Http.Method.noConfusion)
  | signed url payload =>
    obtain ⟨hmethod, _, nonce, hsigned⟩ := h
    rw [Http.Request.errand, hmethod, resource?_signedRequest hsigned]
    rfl

/-! ## The exchanges of turns -/

/-- What the exchanges are for. -/
def errandsIn (xs : List Exchange) : Multiset Errand :=
  ↑(xs.map fun x => x.request.errand)

theorem errandsIn_append (xs ys : List Exchange) :
    errandsIn (xs ++ ys) = errandsIn xs + errandsIn ys := by
  rw [errandsIn, List.map_append, ← Multiset.coe_add]
  rfl

/-- Each errand that has to be signed may need a nonce first. -/
def withRefills (errands : Multiset Errand) : Multiset Errand :=
  errands + errands.countP Errand.IsPost • {.nonce}

theorem withRefills_add (m m' : Multiset Errand) :
    withRefills (m + m') = withRefills m + withRefills m' := by
  rw [withRefills, Multiset.countP_add, add_nsmul, add_add_add_comm]
  rfl

theorem withRefills_mono {m m' : Multiset Errand} (h : m ≤ m') :
    withRefills m ≤ withRefills m' := by
  have hcount := Multiset.countP_le_of_le Errand.IsPost h
  exact add_le_add h (nsmul_le_nsmul_left (Multiset.zero_le _) hcount)

theorem Turn.Step.errands {client : Client} {held held' : Option String} {t : Turn}
    (h : t.Step client held held') : errandsIn t.exchanges ≤ withRefills {t.ask.errand} := by
  have hsent : errandsIn t.sent.toList ≤ {t.ask.errand} := by
    cases hx : t.sent with
    | none => exact Multiset.zero_le _
    | some x =>
      have hask := (h.sent_spec hx).1.errand
      rw [← hask]
      exact le_refl _
  have hrefill : errandsIn t.refill.toList
      ≤ Multiset.countP Errand.IsPost {t.ask.errand} • {.nonce} := by
    cases hy : t.refill with
    | none => exact Multiset.zero_le _
    | some y =>
      have hsigned : t.ask.isSigned = true := (h.refill_iff.1 (by rw [hy]; rfl)).2
      have hpost : t.ask.errand.IsPost := by
        cases hask : t.ask with
        | signed url payload => rfl
        | _ =>
          rw [hask] at hsigned
          cases hsigned
      have hrequest : y.request.errand = .nonce := by
        rw [h.refill_request hy]
        exact congrArg (Errand.mk _) (resource?_of_ne_post Http.Method.noConfusion)
      have hself : errandsIn (some y).toList = {.nonce} := by
        rw [← hrequest]
        rfl
      rw [hself, (Multiset.countP_eq_card (p := Errand.IsPost)).2 (by simpa using hpost)]
      simp
  rw [Turn.exchanges, errandsIn_append, add_comm]
  exact add_le_add hsent hrefill

theorem Conversation.errands {client : Client} {held last : Option String} {turns : List Turn}
    (h : Conversation client held turns last) :
    errandsIn (turns.flatMap Turn.exchanges)
      ≤ withRefills ↑(turns.map fun t => t.ask.errand) := by
  induction h with
  | nil => exact Multiset.zero_le _
  | @cons held next last t turns step _ ih =>
    have hsplit : (↑((t :: turns).map fun t => t.ask.errand) : Multiset Errand)
        = {t.ask.errand} + ↑(turns.map fun t => t.ask.errand) := rfl
    rw [List.flatMap_cons, errandsIn_append, hsplit, withRefills_add]
    exact add_le_add step.errands ih

namespace Run

/-! ## Allowances -/

/-- What is asked for among some deeds. -/
def errandsOf (ds : List Deed) : Multiset Errand :=
  ↑((asksOf ds).map Ask.errand)

theorem errandsOf_append (ds es : List Deed) :
    errandsOf (ds ++ es) = errandsOf ds + errandsOf es := by
  rw [errandsOf, asksOf_append, List.map_append, ← Multiset.coe_add]
  rfl

theorem errandsOf_of_asks_eq_nil {ds : List Deed} (h : asksOf ds = []) : errandsOf ds = 0 := by
  rw [errandsOf, h]
  rfl

theorem errandsOf_of_asks_eq_singleton {ds : List Deed} {ask : Ask} (h : asksOf ds = [ask]) :
    errandsOf ds = {ask.errand} := by
  rw [errandsOf, h]
  rfl

/-- What the guard of registration has paid for: a registration, and the authorization that is asked
for once more. -/
def spare (registered : Bool) : Multiset Errand :=
  if registered then {.registration} + {.authorization} else 0

theorem spare_le (registered : Bool) : spare registered ≤ spare true := by
  cases registered with
  | false => exact Multiset.zero_le _
  | true => exact le_refl _

/-- What is asked for is within an allowance, if registration is attempted at most once. The truth
values tell whether it was, before and after. -/
def Spends (b : Bool) (ds : List Deed) (b' : Bool) (allowed : Multiset Errand) : Prop :=
  errandsOf ds + spare b ≤ allowed + spare b'

namespace Spends

variable {b b' b'' : Bool} {ds es : List Deed} {m m' : Multiset Errand}

theorem append (h : Spends b ds b' m) (h' : Spends b' es b'' m') :
    Spends b (ds ++ es) b'' (m + m') := by
  calc errandsOf (ds ++ es) + spare b = errandsOf es + (errandsOf ds + spare b) := by
        rw [errandsOf_append, add_comm (errandsOf ds), add_assoc]
    _ ≤ errandsOf es + (m + spare b') := add_le_add (le_refl _) h
    _ = m + (errandsOf es + spare b') := add_left_comm _ _ _
    _ ≤ m + (m' + spare b'') := add_le_add (le_refl _) h'
    _ = m + m' + spare b'' := (add_assoc _ _ _).symm

theorem mono (h : Spends b ds b' m) (hle : m ≤ m') : Spends b ds b' m' :=
  h.trans (add_le_add hle (le_refl _))

/-- Deeds in which nothing is asked are free. -/
theorem silent (h : asksOf ds = []) (b : Bool) : Spends b ds b 0 := by
  rw [Spends, errandsOf_of_asks_eq_nil h]

theorem asked {ask : Ask} (h : asksOf ds = [ask]) (b : Bool) : Spends b ds b {ask.errand} := by
  rw [Spends, errandsOf_of_asks_eq_singleton h]

/-- The guard of registration pays. -/
theorem correction (h : errandsOf ds ≤ {.registration} + {.authorization}) :
    Spends false ds true 0 := by
  show errandsOf ds + 0 ≤ 0 + _
  rw [add_zero, zero_add]
  exact h

/-- A deed in which nothing is asked may come before. -/
theorem other (event : Event) (h : Spends b ds b' m) : Spends b (.other event :: ds) b' m :=
  h

end Spends

variable {config : Config} {client : Client}

/-! ## What each part may ask for -/

theorem errand_registrationAsk (client : Client) (email agreement : String) :
    (client.registrationAsk email agreement).errand = .registration :=
  congrArg (Errand.mk _) (resource?_object _ _ (by simp))

theorem errand_authorizationAsk (client : Client) (domain : String) :
    (client.authorizationAsk domain).errand = .authorization :=
  congrArg (Errand.mk _) (resource?_object _ _ (by simp))

theorem errand_activationAsk (client : Client) (c : PendingChallenge) :
    (client.activationAsk c).errand = .activation :=
  congrArg (Errand.mk _) (resource?_object _ _ (by simp))

theorem errand_certificateAsk (client : Client) (request : CertificateRequest) :
    (client.certificateAsk request).errand = .certificate :=
  congrArg (Errand.mk _) (resource?_object _ _ (by simp))

theorem Registering.errands {ds : List Deed} {r : Except Failure Unit}
    (h : Registering config client ds r) : errandsOf ds ≤ {.registration} := by
  cases h with
  | homeless => exact Multiset.zero_le _
  | asked _ ht =>
    rw [← errand_registrationAsk client, ← ht]
    exact le_refl _

/-- A registration is paid for by its guard, and leaves an authorization to spare. -/
theorem Registering.spends {ds : List Deed} {r : Except Failure Unit}
    (h : Registering config client ds r) : Spends false ds true 0 :=
  .correction (h.errands.trans (Multiset.le_add_right _ _))

theorem Obtaining.spends {i : Nat} {domain : String} {ds : List Deed}
    {r : Except Failure PendingChallenge} {b b' : Bool}
    (h : Obtaining config client i domain b ds r b') : Spends b ds b' {.authorization} := by
  have hask {t : Turn} {b : Bool} (ht : t.ask = client.authorizationAsk domain) :
      Spends b [entering (.challenge i), .asked t] b {.authorization} := by
    rw [← errand_authorizationAsk client domain, ← ht]
    exact .other _ (.asked rfl b)
  cases h with
  | failed ht => exact hask ht
  | offered ht => exact hask ht
  | refused ht => exact hask ht
  | unregistered ht _ hr => exact (hask ht).append hr.spends
  | @registered t t' problem ds ht _ hr ht' =>
    have hagain : errandsOf [entering (.challenge i), .asked t'] = {.authorization} := by
      have hone : asksOf [entering (.challenge i), .asked t'] = [t'.ask] := rfl
      rw [errandsOf_of_asks_eq_singleton hone, ht', errand_authorizationAsk]
    -- The second request is not the domain's: the guard pays for it, with the registration.
    refine (hask ht).append (.correction ?_)
    rw [errandsOf_append, hagain]
    exact add_le_add hr.errands (le_refl _)

theorem Polling.spends {policy : PollPolicy} {c : PendingChallenge} {remaining : Nat}
    {ds : List Deed} {r : Except Failure Unit} (h : Polling policy c remaining ds r) (b : Bool) :
    Spends b ds b (remaining • {.fetch}) := by
  obtain ⟨k, hk, hle, _⟩ := h.asks
  have hfetches : errandsOf ds = k • {Errand.fetch} := by
    rw [errandsOf, hk, List.map_replicate, Multiset.nsmul_singleton]
    rfl
  rw [Spends, hfetches]
  exact add_le_add (nsmul_le_nsmul_left (Multiset.zero_le _) hle) (le_refl _)

/-- What the challenge of a domain may take. -/
def challengeAllowance (config : Config) : Multiset Errand :=
  {.activation} + config.policy.maxPolls • {.fetch}

theorem Deciding.spends {c : PendingChallenge} {ds : List Deed} {r : Except Failure Unit}
    (h : Deciding client config.policy c ds r) (b : Bool) :
    Spends b ds b (challengeAllowance config) := by
  have hask {t : Turn} (ht : t.ask = client.activationAsk c) :
      Spends b [.asked t] b {.activation} := by
    rw [← errand_activationAsk client c, ← ht]
    exact .asked rfl b
  cases h with
  | unactivated ht => exact (hask ht).mono (Multiset.le_add_right _ _)
  | polled ht _ hp => exact (hask ht).append (.other _ (hp.spends b))

theorem Completing.spends {c : PendingChallenge} {ds : List Deed} {r : Except Failure Unit}
    (h : Completing config client c ds r) (b : Bool) :
    Spends b ds b (challengeAllowance config) := by
  cases h with
  | deaf => exact (Spends.silent rfl b).mono (Multiset.zero_le _)
  | @served start ds _ hs hd =>
    have hstart : asksOf start = [] := by
      rcases hs with rfl | rfl
      · rfl
      · rfl
    have hwithdrawn : Spends b [.other (.withdrawn c.token)] b 0 := .silent rfl b
    have hserved := (Spends.silent hstart b).append
      (.other (.offered c.token (client.account.keyAuthorization c.token))
        ((hd.spends b).append hwithdrawn))
    rwa [zero_add, add_zero] at hserved

/-- What the authorization of one domain may take. -/
def domainAllowance (config : Config) : Multiset Errand :=
  {.authorization} + challengeAllowance config

theorem Passing.spends {i : Nat} {domain : String} {ds : List Deed} {r : Except Failure Unit}
    {b b' : Bool} (h : Passing config client i domain b ds r b') :
    Spends b ds b' (domainAllowance config) := by
  cases h with
  | unobtained ho => exact ho.spends.mono (Multiset.le_add_right _ _)
  | obtained ho hc => exact ho.spends.append (hc.spends b')

/-- Every domain is passed over once at most, whatever the CA says. -/
theorem Authorizing.spends {i : Nat} {domains : List String} {ds : List Deed}
    {r : Except Failure Unit} {b b' : Bool} (h : Authorizing config client i domains b ds r b') :
    Spends b ds b' (domains.length • domainAllowance config) := by
  induction h with
  | @nil index b => exact (Spends.silent rfl b).mono (Multiset.zero_le _)
  | @stopped index domain rest b b' ds f hp =>
    refine hp.spends.mono ?_
    rw [List.length_cons, succ_nsmul']
    exact Multiset.le_add_right _ _
  | cons hp _ ih =>
    rw [List.length_cons, succ_nsmul']
    exact hp.spends.append ih

/-- What one request for the certificate may take, with the authorizations before it. -/
def passAllowance (config : Config) : Multiset Errand :=
  config.domains.length • domainAllowance config + {.certificate}

theorem Requesting.spends {certKey : String} {ds : List Deed}
    {r : Except Failure CertificateReply} {b b' : Bool}
    (h : Requesting config client certKey b ds r b') : Spends b ds b' (passAllowance config) := by
  cases h with
  | unauthorized ha => exact .other _ (ha.spends.mono (Multiset.le_add_right _ _))
  | unrequested ha =>
    have hsilent : Spends b' [entering .certRequest] b' 0 := .silent rfl b'
    exact .other _ (ha.spends.append (hsilent.mono (Multiset.zero_le _)))
  | @requested _ _ request t ha _ ht =>
    have hask : Spends b' [entering .certRequest, .asked t] b' {.certificate} := by
      rw [← errand_certificateAsk client request, ← ht]
      exact .other _ (.asked rfl b')
    exact .other _ (ha.spends.append hask)

theorem Issuing.spends {certKey : String} {ds : List Deed}
    {r : Except Failure IssuedCertificate} {g g' : Guards}
    (h : Issuing config client certKey g ds r g') :
    Spends g.registered ds g'.registered (2 • passAllowance config) := by
  rw [two_nsmul]
  cases h with
  | failed hr => exact hr.spends.mono (Multiset.le_add_right _ _)
  | issued hr => exact hr.spends.mono (Multiset.le_add_right _ _)
  | twice hr hr' => exact hr.spends.append hr'.spends

theorem Delivering.spends {certKey : String} {c : IssuedCertificate} {ds : List Deed}
    {r : Except Failure IssuedFiles} (h : Delivering config certKey c ds r) (b : Bool) :
    Spends b ds b {.fetch} := by
  cases h with
  | unwritten hw => exact (Spends.silent hw.asks b).mono (Multiset.zero_le _)
  | unfetched hw hf =>
    have hfetched := (Spends.silent hw.asks b).append
      (.other (.entered .intermediateFetch) (.asked hf.asks b))
    rwa [zero_add] at hfetched
  | delivered hw hf =>
    have hdone : Spends b [entering .done] b 0 := .silent rfl b
    have hfetched := (Spends.silent hw.asks b).append
      (.other (.entered .intermediateFetch) ((Spends.asked hf.asks b).append hdone))
    rwa [zero_add, add_zero] at hfetched

theorem Opening.spends {isNew b : Bool} {ds : List Deed} {r : Except Failure Unit}
    (h : Opening config client isNew false ds r b) : Spends false ds b {.nonce} := by
  have hask {t : Turn} (ht : t.ask = .nonce) :
      Spends false [entering .nonce, .asked t] false {.nonce} := by
    have hasked : Spends false [entering .nonce, .asked t] false {t.ask.errand} :=
      .other _ (.asked rfl false)
    rwa [ht] at hasked
  cases h with
  | nonceless ht => exact hask ht
  | known ht => exact hask ht
  | registering ht _ hr => exact (hask ht).append hr.spends

/-! ## The run -/

/-- What a run may ask for, but for the correction. -/
def allowance (config : Config) : Multiset Errand :=
  {.nonce} + (2 • passAllowance config + {.fetch})

theorem Proceeding.spends {isNew : Bool} {certKey : String} {ds : List Deed}
    {r : Except Failure IssuedFiles} {g : Guards}
    (h : Proceeding config client isNew certKey {} ds r g) :
    Spends false ds g.registered (allowance config) := by
  cases h with
  | unopened ho => exact ho.spends.mono (Multiset.le_add_right _ _)
  | unissued ho hi => exact ho.spends.append (hi.spends.mono (Multiset.le_add_right _ _))
  | issued ho hi hd =>
    rw [List.append_assoc]
    exact ho.spends.append (hi.spends.append (hd.spends _))

theorem Running.errands {keys : KeySupply} {present : Bool} {account : Account} {ds : List Deed}
    {r : Except Failure IssuedFiles} {g : Guards}
    (h : Running config keys present account ds r g) :
    errandsOf ds ≤ allowance config + spare true := by
  have hspends : Spends false ds g.registered (allowance config) := by
    cases h with
    | unkept hk => exact (Spends.other _ (.silent hk.asks false)).mono (Multiset.zero_le _)
    | unkeyed hk => exact (Spends.other _ (.silent hk.asks false)).mono (Multiset.zero_le _)
    | proceeding hk _ hp =>
      have hrun := Spends.other (.entered .init) ((Spends.silent hk.asks false).append hp.spends)
      rwa [zero_add] at hrun
  rw [← add_zero (errandsOf ds)]
  exact hspends.trans (add_le_add (le_refl _) (spare_le _))

/-! ## Counting -/

/-- The most that a run sends. -/
def requestAllowance (config : Config) : Multiset Errand :=
  withRefills (allowance config + spare true)

theorem countP_singleton (p : Errand → Prop) [DecidablePred p] (errand : Errand) :
    Multiset.countP p {errand} = if p errand then 1 else 0 := by
  rw [← Multiset.cons_zero, Multiset.countP_cons, Multiset.countP_zero, Nat.zero_add]

theorem countP_allowance (config : Config) (p : Errand → Prop) [DecidablePred p] :
    let has (errand : Errand) : Nat := if p errand then 1 else 0
    (allowance config + spare true).countP p
      = has .nonce + (2 * (config.domains.length * (has .authorization + (has .activation
          + config.policy.maxPolls * has .fetch)) + has .certificate) + has .fetch)
        + (has .registration + has .authorization) := by
  simp only [allowance, passAllowance, domainAllowance, challengeAllowance, spare, if_true,
    Multiset.countP_add, Multiset.countP_nsmul, countP_singleton]

theorem countP_requestAllowance (config : Config) (p : Errand → Prop) [DecidablePred p]
    (h : ¬ p .nonce) :
    (requestAllowance config).countP p = (allowance config + spare true).countP p := by
  rw [requestAllowance, withRefills, Multiset.countP_add, Multiset.countP_nsmul,
    countP_singleton, if_neg h, Nat.mul_zero, Nat.add_zero]

theorem card_allowance (config : Config) :
    (allowance config + spare true).card
      = 4 * config.domains.length + 2 * config.domains.length * config.policy.maxPolls + 6 := by
  have hcount := countP_allowance config fun _ => True
  rw [Multiset.countP_True] at hcount
  rw [hcount]
  simp only [if_true]
  ring

theorem card_requestAllowance (config : Config) :
    (requestAllowance config).card
      = 8 * config.domains.length + 2 * config.domains.length * config.policy.maxPolls + 10 := by
  have hposts : (allowance config + spare true).countP Errand.IsPost
      = 4 * config.domains.length + 4 := by
    have hcount := countP_allowance config Errand.IsPost
    simp only [show Errand.IsPost .authorization from rfl, show Errand.IsPost .activation from rfl,
      show Errand.IsPost .certificate from rfl, show Errand.IsPost .registration from rfl,
      show ¬ Errand.IsPost .nonce from Http.Method.noConfusion,
      show ¬ Errand.IsPost .fetch from Http.Method.noConfusion, if_true, if_false] at hcount
    rw [hcount]
    ring
  rw [requestAllowance, withRefills, Multiset.card_add, Multiset.card_nsmul, card_allowance,
    Multiset.card_singleton, hposts]
  ring

/-! ## What a run sends -/

theorem run_sends (config : Config) (keys : KeySupply) (s : Session) :
    ∃ sent, (s.after (run config keys)).requests = s.requests ++ sent
      ∧ (↑(sent.map Http.Request.errand) : Multiset Errand) ≤ requestAllowance config := by
  obtain ⟨account, deeds, htold⟩ := run_follows config keys s
  have herrands := htold.happened.conversation.errands
  have hasks : ((turnsOf deeds).map fun t => t.ask.errand) = (asksOf deeds).map Ask.errand := by
    rw [asksOf, List.map_map]
    rfl
  rw [hasks] at herrands
  refine ⟨((turnsOf deeds).flatMap Turn.exchanges).map Exchange.request, ?_, ?_⟩
  · rw [Session.requests_eq, Session.requests_eq, htold.happened.exchanges, List.map_append]
    rfl
  · rw [List.map_map]
    exact herrands.trans (withRefills_mono htold.running.errands)

/-- A run sends a bounded number of requests, whatever the CA does. -/
theorem run_bounded (config : Config) (keys : KeySupply) (s : Session) :
    ∃ sent, (s.after (run config keys)).requests = s.requests ++ sent
      ∧ sent.length
        ≤ 8 * config.domains.length + 2 * config.domains.length * config.policy.maxPolls + 10
      ∧ sent.countP (fun request => request.resource? = some "new-reg") ≤ 1
      ∧ sent.countP (fun request => request.resource? = some "new-cert") ≤ 2
      ∧ sent.countP (fun request => request.resource? = some "new-authz")
        ≤ 2 * config.domains.length + 1
      ∧ sent.countP (fun request => request.resource? = some "challenge")
        ≤ 2 * config.domains.length
      ∧ sent.countP (fun request => request.method = .get)
        ≤ 2 * config.domains.length * config.policy.maxPolls + 1 := by
  obtain ⟨sent, hsent, hle⟩ := run_sends config keys s
  have hcount (p : Errand → Prop) [DecidablePred p] (hp : ¬ p .nonce) :
      sent.countP (fun request => p request.errand)
        ≤ (allowance config + spare true).countP p := by
    have hmap := Multiset.countP_le_of_le p hle
    rw [countP_requestAllowance config p hp, Multiset.coe_countP, List.countP_map] at hmap
    exact hmap
  have hresource (resource : String) :
      sent.countP (fun request => request.resource? = some resource)
        ≤ (allowance config + spare true).countP (fun errand => errand.resource = some resource) :=
    hcount (fun errand => errand.resource = some resource) (by simp [Errand.nonce])
  have hget : sent.countP (fun request => request.method = .get)
      ≤ (allowance config + spare true).countP (fun errand => errand.method = .get) :=
    hcount (fun errand => errand.method = .get) (by simp [Errand.nonce])
  simp only [countP_allowance, Errand.nonce, Errand.fetch, Errand.registration,
    Errand.authorization, Errand.activation, Errand.certificate] at hresource hget
  refine ⟨sent, hsent, ?_, ?_, ?_, ?_, ?_, ?_⟩
  case refine_1 =>
    have hcard := Multiset.card_le_card hle
    rwa [card_requestAllowance, Multiset.coe_card, List.length_map] at hcard
  case refine_2 => simpa using hresource "new-reg"
  case refine_3 => simpa using hresource "new-cert"
  case refine_4 => simpa using hresource "new-authz"
  case refine_5 => simpa using hresource "challenge"
  case refine_6 =>
    rw [Nat.mul_assoc]
    simpa using hget

end Run

end Acme
