import Acme.Proofs.Run.Course
import Mathlib.Computability.Language

/-!
# The language of a run

What a run asks of the CA, one thing after the other, is the beginning of a word of a language that
is given by its parts (`protocol`). It is a whole word when the run succeeds (`Running.speaks`).
-/

namespace Acme.Run

/-! ## Words and their beginnings -/

/-- The beginnings of the words of a language. -/
def cut (L : Language Ask) : Language Ask :=
  {w | ∃ v ∈ L, w <+: v}

section
variable {L M : Language Ask} {v w : List Ask}

theorem mem_cut_of_mem (h : w ∈ L) : w ∈ cut L :=
  ⟨w, h, List.prefix_refl w⟩

theorem nil_mem_cut (h : w ∈ L) : [] ∈ cut L :=
  ⟨w, h, List.nil_prefix⟩

theorem cut_mono (h : ∀ v ∈ L, v ∈ M) (hw : w ∈ cut L) : w ∈ cut M := by
  obtain ⟨v, hv, hp⟩ := hw
  exact ⟨v, h v hv, hp⟩

theorem append_mem_cut (hv : v ∈ L) (hw : w ∈ cut M) : v ++ w ∈ cut (L * M) := by
  obtain ⟨u, hu, hp⟩ := hw
  exact ⟨v ++ u, Language.append_mem_mul hv hu, (List.prefix_append_right_inj v).2 hp⟩

theorem mem_cut_mul (hw : w ∈ cut L) (hv : v ∈ M) : w ∈ cut (L * M) := by
  obtain ⟨u, hu, hp⟩ := hw
  exact ⟨u ++ v, Language.append_mem_mul hu hv, hp.trans (List.prefix_append u v)⟩

theorem mem_mul_one_add (h : w ∈ L) (M : Language Ask) : w ∈ L * (1 + M) :=
  Language.mem_mul.2 ⟨w, h, [], Or.inl Language.nil_mem_one, List.append_nil w⟩

theorem mem_mul_one_add_of_mem_mul (hw : w ∈ L * M) : w ∈ L * (1 + M) := by
  obtain ⟨u, hu, v, hv, rfl⟩ := Language.mem_mul.1 hw
  exact Language.append_mem_mul hu (Or.inr hv)

end

/-! ## The parts of the language -/

section
variable (config : Config) (client : Client)

def registrations : Language Ask :=
  {w | ∃ email agreement, w = [client.registrationAsk email agreement]}

/-- The request for an authorization of a domain; registration may intervene, and then the request
is made again. -/
def authorizations (domain : String) : Language Ask :=
  {[client.authorizationAsk domain]}
    * (1 + registrations client * {[client.authorizationAsk domain]})

/-- The activation of a challenge, which is polled then, once at least and not too often. -/
def validations : Language Ask :=
  {w | ∃ (c : PendingChallenge) (k : Nat), 1 ≤ k ∧ k ≤ config.policy.maxPolls
    ∧ w = client.activationAsk c :: List.replicate k (.plain c.uri)}

def passOver (domains : List String) : Language Ask :=
  (domains.map fun domain => authorizations client domain * validations config client).prod

def pass : Language Ask :=
  passOver config client config.domains

def certificates : Language Ask :=
  {w | ∃ request, w = [client.certificateAsk request]}

def issuers : Language Ask :=
  {w | ∃ url, w = [.plain url]}

/-- What a run asks of the CA, for an account that is new or not. -/
def protocol (isNew : Bool) : Language Ask :=
  {[.nonce]} * (if isNew then registrations client else 1)
    * (pass config client * certificates client * (1 + pass config client * certificates client))
    * issuers

end

/-! ## Parts of a run -/

def asksOf (ds : List Deed) : List Ask :=
  (turnsOf ds).map Turn.ask

@[simp]
theorem asksOf_append (ds es : List Deed) : asksOf (ds ++ es) = asksOf ds ++ asksOf es := by
  rw [asksOf, turnsOf_append, List.map_append]
  rfl

/-- What is asked is a word of a language, or the beginning of one when the part of the run
fails. -/
structure Speaks {α : Type} (ds : List Deed) (r : Except Failure α) (L : Language Ask) : Prop where
  cut : asksOf ds ∈ cut L
  whole : ∀ x, r = .ok x → asksOf ds ∈ L

namespace Speaks

variable {α β : Type} {ds es : List Deed} {r : Except Failure α} {L M : Language Ask} {x : β}
  {f : Failure}

theorem of_mem (h : asksOf ds ∈ L) : Speaks ds r L :=
  ⟨mem_cut_of_mem h, fun _ _ => h⟩

theorem of_cut (h : asksOf ds ∈ Run.cut L) : Speaks ds (.error f : Except Failure α) L :=
  ⟨h, fun _ h => (by cases h)⟩

theorem mono (h : Speaks ds r L) (hle : ∀ w ∈ L, w ∈ M) : Speaks ds r M :=
  ⟨cut_mono hle h.cut, fun x hx => hle _ (h.whole x hx)⟩

theorem append (h : Speaks ds (.ok x) L) (h' : Speaks es r M) : Speaks (ds ++ es) r (L * M) := by
  constructor
  · rw [asksOf_append]
    exact append_mem_cut (h.whole x rfl) h'.cut
  · intro y hy
    rw [asksOf_append]
    exact Language.append_mem_mul (h.whole x rfl) (h'.whole y hy)

theorem failed {v : List Ask} (h : Speaks ds (.error f : Except Failure β) L) (hv : v ∈ M) :
    Speaks ds (.error f : Except Failure α) (L * M) :=
  .of_cut (mem_cut_mul h.cut hv)

/-- The result does not matter when the word is whole, or when both results are failures. -/
theorem result {r' : Except Failure β} (h : Speaks ds r L) (hr : ∀ y, r' = .ok y → ∃ x, r = .ok x) :
    Speaks ds r' L := by
  refine ⟨h.cut, fun y hy => ?_⟩
  obtain ⟨x, hx⟩ := hr y hy
  exact h.whole x hx

/-- A deed in which nothing is asked may come before. -/
theorem other (event : Event) (h : Speaks ds r L) : Speaks (.other event :: ds) r L :=
  ⟨h.cut, h.whole⟩

/-- Deeds in which nothing is asked may come before. -/
theorem silent (hs : asksOf ds = []) (h : Speaks es r L) : Speaks (ds ++ es) r L := by
  constructor
  · rw [asksOf_append, hs]
    exact h.cut
  · intro x hx
    rw [asksOf_append, hs]
    exact h.whole x hx

end Speaks

variable {config : Config} {client : Client}

/-! ## Authorizing -/

theorem mem_registrations (email agreement : String) :
    [client.registrationAsk email agreement] ∈ registrations client :=
  ⟨email, agreement, rfl⟩

theorem Registering.speaks {ds : List Deed} {r : Except Failure Unit}
    (h : Registering config client ds r) : Speaks ds r (registrations client) := by
  cases h with
  | homeless => exact .of_cut (nil_mem_cut (mem_registrations "" ""))
  | asked _ ht =>
    refine .of_mem ?_
    rw [asksOf, turnsOf_other, turnsOf_asked, turnsOf_nil, List.map_singleton, ht]
    exact mem_registrations _ _

theorem Obtaining.speaks {i : Nat} {domain : String} {ds : List Deed}
    {r : Except Failure PendingChallenge} {b b' : Bool}
    (h : Obtaining config client i domain b ds r b') :
    Speaks ds r (authorizations client domain) := by
  have hask {t : Turn} (ht : t.ask = client.authorizationAsk domain) :
      asksOf [entering (.challenge i), .asked t] ∈ ({[client.authorizationAsk domain]} : Language Ask) := by
    show [t.ask] = _
    rw [ht]
  have hself : [client.authorizationAsk domain]
      ∈ ({[client.authorizationAsk domain]} : Language Ask) := rfl
  have honce {t : Turn} (ht : t.ask = client.authorizationAsk domain) :
      asksOf [entering (.challenge i), .asked t] ∈ authorizations client domain :=
    mem_mul_one_add (hask ht) _
  have htwice (w : List Ask) (hw : w ∈ {[client.authorizationAsk domain]}
      * (registrations client * {[client.authorizationAsk domain]})) :
      w ∈ authorizations client domain := mem_mul_one_add_of_mem_mul hw
  cases h with
  | failed ht => exact .of_mem (honce ht)
  | offered ht => exact .of_mem (honce ht)
  | refused ht => exact .of_mem (honce ht)
  | unregistered ht _ hr =>
    have hfirst : Speaks _ (.ok () : Except Failure Unit) _ := .of_mem (hask ht)
    exact (hfirst.append (hr.speaks.failed hself)).mono htwice
  | registered ht _ hr ht' =>
    have hfirst : Speaks _ (.ok () : Except Failure Unit) _ := .of_mem (hask ht)
    exact (hfirst.append (hr.speaks.append (.of_mem (hask ht')))).mono htwice

theorem asksOf_pause (policy : PollPolicy) (remaining : Nat) :
    asksOf (pause policy remaining) = [] := by
  rw [asksOf, turnsOf_pause]
  rfl

theorem Polling.asks {policy : PollPolicy} {c : PendingChallenge} {remaining : Nat} {ds : List Deed}
    {r : Except Failure Unit} (h : Polling policy c remaining ds r) :
    ∃ k, asksOf ds = List.replicate k (.plain c.uri) ∧ k ≤ remaining
      ∧ (1 ≤ remaining → 1 ≤ k) := by
  induction h with
  | spent => exact ⟨0, rfl, Nat.le_refl 0, fun h => h⟩
  | @valid remaining t ht =>
    refine ⟨1, ?_, Nat.le_add_left 1 remaining, fun _ => Nat.le_refl 1⟩
    show [t.ask] = _
    rw [ht]
    rfl
  | @failed remaining t _ ht =>
    refine ⟨1, ?_, Nat.le_add_left 1 remaining, fun _ => Nat.le_refl 1⟩
    show [t.ask] = _
    rw [ht]
    rfl
  | @pending remaining t ds _ ht _ _ ih =>
    obtain ⟨k, hk, hle, _⟩ := ih
    refine ⟨k + 1, ?_, Nat.succ_le_succ hle, fun _ => Nat.le_add_left 1 k⟩
    show t.ask :: asksOf (pause policy remaining ++ ds) = _
    rw [asksOf_append, asksOf_pause, hk, ht]
    rfl

theorem Deciding.speaks {c : PendingChallenge} {ds : List Deed} {r : Except Failure Unit}
    (h : Deciding client config.policy c ds r) (hp : 1 ≤ config.policy.maxPolls) :
    Speaks ds r (validations config client) := by
  cases h with
  | @unactivated t f ht =>
    refine .of_cut ⟨_, ⟨c, 1, Nat.le_refl 1, hp, rfl⟩, ?_⟩
    show [t.ask] <+: _
    rw [ht]
    exact List.prefix_append [_] _
  | @polled t _ _ _ ht _ hpoll =>
    obtain ⟨k, hk, hle, hpos⟩ := hpoll.asks
    refine .of_mem ⟨c, k, hpos hp, hle, ?_⟩
    show t.ask :: _ = _
    rw [ht]
    exact congrArg _ hk

theorem Completing.speaks {c : PendingChallenge} {ds : List Deed} {r : Except Failure Unit}
    (h : Completing config client c ds r) (hp : 1 ≤ config.policy.maxPolls) :
    Speaks ds r (validations config client) := by
  cases h with
  | deaf => exact .of_cut (nil_mem_cut ⟨c, 1, Nat.le_refl 1, hp, rfl⟩)
  | @served start ds _ hs hd =>
    have hstart : asksOf start = [] := by
      rcases hs with rfl | rfl
      · rfl
      · rfl
    have hinner := hd.speaks hp
    refine .silent hstart ?_
    constructor
    · show asksOf (ds ++ _) ∈ _
      rw [asksOf_append]
      exact (List.append_nil (asksOf ds)).symm ▸ hinner.cut
    · intro x hx
      show asksOf (ds ++ _) ∈ _
      rw [asksOf_append]
      exact (List.append_nil (asksOf ds)).symm ▸ hinner.whole x hx

theorem mem_validations (client : Client) (hp : 1 ≤ config.policy.maxPolls) :
    ∃ v, v ∈ validations config client :=
  ⟨_, ⟨"", "", ""⟩, 1, Nat.le_refl 1, hp, rfl⟩

theorem mem_authorizations (domain : String) :
    [client.authorizationAsk domain] ∈ authorizations client domain :=
  mem_mul_one_add (Set.mem_singleton _) _

theorem Passing.speaks {i : Nat} {domain : String} {ds : List Deed} {r : Except Failure Unit}
    {b b' : Bool} (h : Passing config client i domain b ds r b')
    (hp : 1 ≤ config.policy.maxPolls) :
    Speaks ds r (authorizations client domain * validations config client) := by
  cases h with
  | unobtained ho =>
    obtain ⟨v, hv⟩ := mem_validations client hp
    exact ho.speaks.failed hv
  | obtained ho hc => exact ho.speaks.append (hc.speaks hp)

theorem mem_passOver (client : Client) (hp : 1 ≤ config.policy.maxPolls) (domains : List String) :
    ∃ v, v ∈ passOver config client domains := by
  induction domains with
  | nil => exact ⟨[], Language.nil_mem_one⟩
  | cons domain rest ih =>
    obtain ⟨u, hu⟩ := mem_validations client hp
    obtain ⟨v, hv⟩ := ih
    rw [passOver, List.map_cons, List.prod_cons]
    exact ⟨_, Language.append_mem_mul (Language.append_mem_mul (mem_authorizations domain) hu) hv⟩

theorem Authorizing.speaks {i : Nat} {domains : List String} {ds : List Deed}
    {r : Except Failure Unit} {b b' : Bool} (h : Authorizing config client i domains b ds r b')
    (hp : 1 ≤ config.policy.maxPolls) : Speaks ds r (passOver config client domains) := by
  induction h with
  | nil => exact .of_mem Language.nil_mem_one
  | stopped hpass =>
    obtain ⟨v, hv⟩ := mem_passOver client hp _
    rw [passOver, List.map_cons, List.prod_cons]
    exact (hpass.speaks hp).failed hv
  | cons hpass _ ih =>
    rw [passOver, List.map_cons, List.prod_cons]
    exact (hpass.speaks hp).append ih

/-! ## The certificate -/

theorem mem_certificates (client : Client) : ∃ v, v ∈ certificates client :=
  ⟨_, ⟨"", ⟨0, 0⟩, [], []⟩, rfl⟩

theorem Requesting.speaks {certKey : String} {ds : List Deed} {r : Except Failure CertificateReply}
    {b b' : Bool} (h : Requesting config client certKey b ds r b')
    (hp : 1 ≤ config.policy.maxPolls) :
    Speaks ds r (pass config client * certificates client) := by
  obtain ⟨v, hv⟩ := mem_certificates client
  cases h with
  | unauthorized ha => exact .other _ ((ha.speaks hp).failed hv)
  | @unrequested _ _ e ha =>
    have hrest : Speaks [entering .certRequest]
        (.error (.certificateRequest e.message) : Except Failure CertificateReply)
        (certificates client) := .of_cut (nil_mem_cut hv)
    exact .other _ ((ha.speaks hp).append hrest)
  | requested ha hr ht =>
    rename_i request t
    have hrest : Speaks [entering .certRequest, .asked t]
        (t.certificate client.endpoints.newCert) (certificates client) := by
      refine .of_mem ⟨request, ?_⟩
      show [t.ask] = _
      rw [ht]
    exact .other _ ((ha.speaks hp).append hrest)

theorem Issuing.speaks {certKey : String} {ds : List Deed} {r : Except Failure IssuedCertificate}
    {g g' : Guards} (h : Issuing config client certKey g ds r g')
    (hp : 1 ≤ config.policy.maxPolls) :
    Speaks ds r (pass config client * certificates client
      * (1 + pass config client * certificates client)) := by
  cases h with
  | failed hr => exact (hr.speaks hp).failed (Or.inl Language.nil_mem_one)
  | issued hr => exact .of_mem (mem_mul_one_add ((hr.speaks hp).whole _ rfl) _)
  | twice hr hr' =>
    rename_i r
    refine (((hr.speaks hp).append (hr'.speaks hp)).result ?_).mono fun _ => mem_mul_one_add_of_mem_mul
    intro c hc
    cases r with
    | ok reply => exact ⟨reply, rfl⟩
    | error f => cases hc

/-! ## The run -/

theorem Changing.asks {steps : List FileStep} {ds : List Deed} {fault : Option SystemFault}
    (h : Changing steps ds fault) : asksOf ds = [] := by
  induction h with
  | nil => rfl
  | stopped => rfl
  | cons _ ih => exact ih

theorem Writing.asks {certKey : String} {c : IssuedCertificate} {ds : List Deed}
    {r : Except Failure Unit} (h : Writing config certKey c ds r) : asksOf ds = [] := by
  cases h with
  | keyless hk => exact hk.asks
  | leafless hk hc => rw [asksOf_append, hk.asks, hc.asks]; rfl
  | written hk hc => rw [asksOf_append, hk.asks, hc.asks]; rfl

theorem Keeping.asks {keys : KeySupply} {present : Bool} {ds : List Deed}
    {r : Except Failure (Account × Bool)} (h : Keeping config keys present ds r) :
    asksOf ds = [] := by
  cases h with
  | unsaved _ _ hs => exact hs.asks
  | unusable _ _ hs => exact hs.asks
  | saved _ _ hs => exact hs.asks
  | _ => rfl

theorem Fetching.asks {url : String} {ds : List Deed} {r : Except Failure Unit}
    (h : Fetching config url ds r) : asksOf ds = [.plain url] := by
  have hcons {t : Turn} {ds : List Deed} (ht : t.ask = .plain url) (hds : asksOf ds = []) :
      asksOf (.asked t :: ds) = [.plain url] := by
    show t.ask :: asksOf ds = _
    rw [ht, hds]
  cases h with
  | unfetched ht => exact hcons ht rfl
  | unwritten ht _ hi => exact hcons ht hi.asks
  | written ht _ hi => exact hcons ht hi.asks

theorem Delivering.speaks {certKey : String} {c : IssuedCertificate} {ds : List Deed}
    {r : Except Failure IssuedFiles} (h : Delivering config certKey c ds r) :
    Speaks ds r issuers := by
  cases h with
  | unwritten hw =>
    refine .of_cut ?_
    rw [hw.asks]
    exact nil_mem_cut ⟨"", rfl⟩
  | unfetched hw hf =>
    refine .silent hw.asks (.other _ (.of_mem ⟨c.issuerUrl, hf.asks⟩))
  | delivered hw hf =>
    refine .silent hw.asks (.other _ (.of_mem ⟨c.issuerUrl, ?_⟩))
    exact (asksOf_append _ _).trans (congrArg (· ++ []) hf.asks)

theorem mem_enrolment (client : Client) (isNew : Bool) :
    ∃ v, v ∈ if isNew then registrations client else 1 := by
  split
  · exact ⟨_, mem_registrations "" ""⟩
  · exact ⟨[], Language.nil_mem_one⟩

theorem Opening.speaks {isNew b b' : Bool} {ds : List Deed} {r : Except Failure Unit}
    (h : Opening config client isNew b ds r b') :
    Speaks ds r ({[.nonce]} * (if isNew then registrations client else 1)) := by
  have hask {t : Turn} (ht : t.ask = .nonce) :
      Speaks [entering .nonce, .asked t] (.ok () : Except Failure Unit) {[.nonce]} := by
    refine .of_mem ?_
    show [t.ask] = _
    rw [ht]
  cases h with
  | nonceless ht =>
    obtain ⟨v, hv⟩ := mem_enrolment client isNew
    exact .of_cut (mem_cut_mul (hask ht).cut hv)
  | known ht hn =>
    have hnone : Speaks [] (.ok () : Except Failure Unit) 1 := .of_mem Language.nil_mem_one
    rw [hn]
    exact (hask ht).append hnone
  | registering ht hn hr =>
    rw [hn]
    exact (hask ht).append hr.speaks

theorem mem_pass (client : Client) (hp : 1 ≤ config.policy.maxPolls) :
    ∃ v, v ∈ pass config client * certificates client
      * (1 + pass config client * certificates client) := by
  obtain ⟨u, hu⟩ := mem_passOver client hp config.domains
  obtain ⟨v, hv⟩ := mem_certificates client
  exact ⟨_, mem_mul_one_add (Language.append_mem_mul hu hv) _⟩

theorem Proceeding.speaks {isNew : Bool} {certKey : String} {ds : List Deed}
    {r : Except Failure IssuedFiles} {g g' : Guards}
    (h : Proceeding config client isNew certKey g ds r g') (hp : 1 ≤ config.policy.maxPolls) :
    Speaks ds r (protocol config client isNew) := by
  have hissuer : [Ask.plain ""] ∈ issuers := ⟨"", rfl⟩
  obtain ⟨v, hv⟩ := mem_pass client hp
  cases h with
  | unopened ho => exact (ho.speaks.failed hv (α := Unit)).failed hissuer
  | unissued ho hi => exact (ho.speaks.append (hi.speaks hp)).failed hissuer
  | issued ho hi hd => exact (ho.speaks.append (hi.speaks hp)).append hd.speaks

theorem mem_protocol (client : Client) (isNew : Bool) (hp : 1 ≤ config.policy.maxPolls) :
    ∃ v, v ∈ protocol config client isNew := by
  obtain ⟨u, hu⟩ := mem_enrolment client isNew
  obtain ⟨v, hv⟩ := mem_pass client hp
  exact ⟨_, Language.append_mem_mul (Language.append_mem_mul
    (Language.append_mem_mul (Set.mem_singleton [Ask.nonce]) hu) hv) ⟨"", rfl⟩⟩

/-- What a run asks for is a word of the language, or the beginning of one when the run fails. -/
theorem Running.speaks {keys : KeySupply} {present : Bool} {account : Account} {ds : List Deed}
    {r : Except Failure IssuedFiles} {g : Guards}
    (h : Running config keys present account ds r g) (hp : 1 ≤ config.policy.maxPolls) :
    Speaks ds r (protocol config ⟨config.endpoints, account⟩ (!present)) := by
  obtain ⟨v, hv⟩ := mem_protocol ⟨config.endpoints, account⟩ (!present) hp
  cases h with
  | unkept hk => exact .of_cut (hk.asks.symm ▸ nil_mem_cut hv)
  | unkeyed hk _ => exact .of_cut (hk.asks.symm ▸ nil_mem_cut hv)
  | proceeding hk _ hproceeding =>
    rw [← hk.isNew_eq]
    exact .other _ (.silent hk.asks (hproceeding.speaks hp))

end Acme.Run
