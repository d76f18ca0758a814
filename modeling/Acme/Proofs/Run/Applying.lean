import Acme.Proofs.Config
import Acme.Proofs.Run.Phases
import Acme.Proofs.Run.Success

/-!
# From the last domain to the request

Whether a request for the certificate can be made shows only after all domains are authorized: a
run that comes so far sends the request at once, or this is its end (`Applies`, proved for each part
of a run). For a valid configuration and new keys, the size of the key and the domains decide which
of the two happens (`run_applies`).
-/

namespace Acme.Run

variable {config : Config} {client : Client} {certKey : String} {α β : Type}

/-! ## Parts that do not come so far -/

theorem Quiet.phases {ds : List Deed} (h : Quiet ds) : phasesOf ds = [] := by
  refine List.filterMap_eq_nil_iff.2 fun deed hmem => ?_
  have hdeed := h deed hmem
  cases deed with
  | asked t => rfl
  | other event => exact hdeed

theorem Registering.certRequest_notMem {ds : List Deed} {r : Except Failure Unit}
    (h : Registering config client ds r) : Phase.certRequest ∉ phasesOf ds := by
  cases h <;> simp [entering]

theorem Obtaining.certRequest_notMem {i : Nat} {domain : String} {ds : List Deed}
    {r : Except Failure PendingChallenge} {b b' : Bool}
    (h : Obtaining config client i domain b ds r b') : Phase.certRequest ∉ phasesOf ds := by
  cases h with
  | unregistered _ _ hr =>
    have hnot := hr.certRequest_notMem
    simp [entering, hnot]
  | registered _ _ hr _ =>
    have hnot := hr.certRequest_notMem
    simp [entering, hnot]
  | _ => simp [entering]

theorem Authorizing.certRequest_notMem {i : Nat} {domains : List String} {ds : List Deed}
    {r : Except Failure Unit} {b b' : Bool} (h : Authorizing config client i domains b ds r b') :
    Phase.certRequest ∉ phasesOf ds := by
  have hpassing {i : Nat} {domain : String} {ds : List Deed} {r : Except Failure Unit} {b b' : Bool}
      (h : Passing config client i domain b ds r b') : Phase.certRequest ∉ phasesOf ds := by
    cases h with
    | unobtained ho => exact ho.certRequest_notMem
    | obtained ho hc =>
      rw [phasesOf_append, hc.quiet.phases, List.append_nil]
      exact ho.certRequest_notMem
  induction h with
  | nil => exact List.not_mem_nil
  | stopped hp => exact hpassing hp
  | cons hp _ ih =>
    rw [phasesOf_append, List.mem_append]
    exact not_or_intro (hpassing hp) ih

theorem Opening.certRequest_notMem {isNew : Bool} {ds : List Deed} {r : Except Failure Unit}
    {b b' : Bool} (h : Opening config client isNew b ds r b') :
    Phase.certRequest ∉ phasesOf ds := by
  cases h with
  | registering _ _ hr =>
    have hnot := hr.certRequest_notMem
    simp [entering, hnot]
  | _ => simp [entering]

theorem Delivering.certRequest_notMem {c : IssuedCertificate} {ds : List Deed}
    {r : Except Failure IssuedFiles} (h : Delivering config certKey c ds r) :
    Phase.certRequest ∉ phasesOf ds := by
  cases h with
  | unwritten hw => simp [hw.quiet.phases]
  | unfetched hw hf => simp [entering, hw.quiet.phases, hf.quiet.phases]
  | delivered hw hf => simp [entering, hw.quiet.phases, hf.quiet.phases]

/-! ## Parts that do -/

/-- All domains have been authorized in the last pass over them. -/
def Authorized (config : Config) (client : Client) (deeds : List Deed) : Prop :=
  ∃ earlier pass, deeds = earlier ++ entering .authStart :: pass
    ∧ Granted client config.domains (turnsOf pass)

/-- Where deeds come to the certificate, all domains are authorized, and it is asked for with the
next deed; or this was the last one, and the result is that no request can be made. -/
def Applies (config : Config) (client : Client) (certKey : String) (r : Except Failure α)
    (ds : List Deed) : Prop :=
  ∀ before after, ds = before ++ entering .certRequest :: after →
    Authorized config client before
      ∧ ((∃ request t rest, CertificateRequest.create certKey config.domains = .ok request
          ∧ t.ask = client.certificateAsk request ∧ after = .asked t :: rest)
        ∨ ∃ e, CertificateRequest.create certKey config.domains = .error e
          ∧ r = .error (.certificateRequest e.message) ∧ after = [])

theorem notMem_of_split {ds before after : List Deed} {phase : Phase}
    (h : phase ∉ phasesOf ds) : ds ≠ before ++ entering phase :: after := by
  intro hds
  refine h ?_
  rw [hds, phasesOf_append, entering, phasesOf_entered]
  exact List.mem_append_right _ List.mem_cons_self

/-- A phase that is entered once is found at one place. -/
theorem split_unique {front late before after : List Deed} {phase : Phase}
    (hfront : phase ∉ phasesOf front) (hlate : phase ∉ phasesOf late)
    (h : front ++ entering phase :: late = before ++ entering phase :: after) :
    before = front ∧ after = late := by
  rcases split_append h with ⟨middle, hsplit⟩ | ⟨middle, hbefore, hsplit⟩
  · exact absurd hsplit (notMem_of_split hfront)
  · cases middle with
    | nil =>
      rw [List.append_nil] at hbefore
      exact ⟨hbefore, (List.cons.inj hsplit).2.symm⟩
    | cons deed middle => exact absurd (List.cons.inj hsplit).2 (notMem_of_split hlate)

namespace Applies

variable {ds es : List Deed} {r : Except Failure α}

theorem of_notMem (h : Phase.certRequest ∉ phasesOf ds) : Applies config client certKey r ds :=
  fun _ _ hds => absurd hds (notMem_of_split h)

/-- A part that ends well does not keep the next one from its end. -/
theorem append {x : β} (h : Applies config client certKey (.ok x) ds)
    (h' : Applies config client certKey r es) : Applies config client certKey r (ds ++ es) := by
  intro before after hds
  rcases split_append hds with ⟨middle, hfront⟩ | ⟨middle, hbefore, hlate⟩
  -- In the first part a request was made: had it been impossible, the part would have failed.
  · obtain ⟨hauthorized, hmade | ⟨e, _, hr, _⟩⟩ := h before middle hfront
    · obtain ⟨request, t, rest, hcreate, ht, hmiddle⟩ := hmade
      refine ⟨hauthorized, .inl ⟨request, t, rest ++ es, hcreate, ht, ?_⟩⟩
      rw [hfront, hmiddle, List.append_assoc] at hds
      exact (List.cons.inj (List.append_cancel_left hds)).2.symm
    · cases hr
  · obtain ⟨⟨earlier, pass, hmiddle, hgranted⟩, hnext⟩ := h' middle after hlate
    refine ⟨⟨ds ++ earlier, pass, ?_, hgranted⟩, hnext⟩
    rw [hbefore, hmiddle, List.append_assoc]

/-- Deeds that do not come to the certificate may stand in front. -/
theorem after_notMem (h : Phase.certRequest ∉ phasesOf ds)
    (h' : Applies config client certKey r es) : Applies config client certKey r (ds ++ es) :=
  append (of_notMem (r := (.ok () : Except Failure Unit)) h) h'

theorem result {r' : Except Failure β} (h : Applies config client certKey r ds)
    (hr : ∀ f, r = .error f → r' = .error f) : Applies config client certKey r' ds := by
  intro before after hds
  obtain ⟨hauthorized, hmade | ⟨e, hcreate, hend, hafter⟩⟩ := h before after hds
  · exact ⟨hauthorized, .inl hmade⟩
  · exact ⟨hauthorized, .inr ⟨e, hcreate, hr _ hend, hafter⟩⟩

end Applies

theorem Requesting.applies {ds : List Deed} {r : Except Failure CertificateReply} {b b' : Bool}
    (h : Requesting config client certKey b ds r b') : Applies config client certKey r ds := by
  have hstart {ds : List Deed} {r : Except Failure Unit}
      (h : Authorizing config client 0 config.domains b ds r b') :
      Phase.certRequest ∉ phasesOf (entering .authStart :: ds) := by
    have hnot := h.certRequest_notMem
    simp [entering, hnot]
  cases h with
  | unauthorized ha => exact .of_notMem (hstart ha)
  | unrequested ha he =>
    intro before after hds
    obtain ⟨rfl, rfl⟩ := split_unique (hstart ha) List.not_mem_nil hds
    exact ⟨⟨[], _, rfl, ha.granted⟩, .inr ⟨_, he, rfl, rfl⟩⟩
  | requested ha hr ht =>
    intro before after hds
    obtain ⟨rfl, rfl⟩ := split_unique (hstart ha) (by simp) hds
    exact ⟨⟨[], _, rfl, ha.granted⟩, .inl ⟨_, _, [], hr, ht, rfl⟩⟩

theorem Issuing.applies {ds : List Deed} {r : Except Failure IssuedCertificate} {g g' : Guards}
    (h : Issuing config client certKey g ds r g') : Applies config client certKey r ds := by
  cases h with
  | failed hr => exact hr.applies.result fun f hf => (by cases hf; rfl)
  | issued hr => exact hr.applies.result fun f hf => (by cases hf)
  | @twice _ _ _ _ _ r hr hr' =>
    refine hr.applies.append (hr'.applies.result fun f hf => ?_)
    rw [hf]
    rfl

theorem Proceeding.applies {isNew : Bool} {ds : List Deed} {r : Except Failure IssuedFiles}
    {g g' : Guards} (h : Proceeding config client isNew certKey g ds r g') :
    Applies config client certKey r ds := by
  cases h with
  | unopened ho => exact .of_notMem ho.certRequest_notMem
  | unissued ho hi =>
    exact .after_notMem ho.certRequest_notMem (hi.applies.result fun f hf => (by cases hf; rfl))
  | issued ho hi hd =>
    exact (Applies.after_notMem ho.certRequest_notMem hi.applies).append
      (.of_notMem hd.certRequest_notMem)

/-- A run that comes to the certificate has a key for it. -/
theorem Running.applies {keys : KeySupply} {present : Bool} {account : Account} {ds : List Deed}
    {r : Except Failure IssuedFiles} {g : Guards}
    (h : Running config keys present account ds r g) :
    Phase.certRequest ∉ phasesOf ds ∨ ∃ certKey,
      keys.certificate config.certKeyBits = .ok certKey
        ∧ Applies config ⟨config.endpoints, account⟩ certKey r ds := by
  have hkeeping {ds : List Deed} {r : Except Failure (Account × Bool)}
      (h : Keeping config keys present ds r) :
      Phase.certRequest ∉ phasesOf (entering .init :: ds) := by
    simp [entering, h.quiet.phases]
  cases h with
  | unkept hk => exact .inl (hkeeping hk)
  | unkeyed hk => exact .inl (hkeeping hk)
  | proceeding hk hc hp => exact .inr ⟨_, hc, hp.applies.after_notMem (hkeeping hk)⟩

/-! ## The run -/

/-- Where a run comes to the certificate, all domains are authorized; it is asked for with the next
deed if nothing stands in the way, and this was the last deed otherwise. -/
def Decided (config : Config) (keys : KeySupply) (s : Session) (account : Account)
    (deeds : List Deed) (obstacle : Option CryptoError) : Prop :=
  ∀ before after, deeds = before ++ entering .certRequest :: after →
    Authorized config ⟨config.endpoints, account⟩ before
      ∧ match obstacle with
        | none => ∃ certKey request t rest, keys.certificate config.certKeyBits = .ok certKey
            ∧ CertificateRequest.create certKey config.domains = .ok request
            ∧ t.ask = Client.certificateAsk ⟨config.endpoints, account⟩ request
            ∧ after = .asked t :: rest
        | some e => after = []
            ∧ s.outcome (run config keys) = .error (.certificateRequest e.message)

variable {keys : KeySupply} {s : Session} {account : Account} {deeds : List Deed}

theorem Told.decided (htold : Told config keys s account deeds) {obstacle : Option CryptoError}
    (h : ∀ certKey, keys.certificate config.certKeyBits = .ok certKey →
      (∀ e, obstacle = some e → CertificateRequest.create certKey config.domains = .error e)
        ∧ (obstacle = none →
          ∃ request, CertificateRequest.create certKey config.domains = .ok request)) :
    Decided config keys s account deeds obstacle := by
  intro before after hds
  rcases htold.running.applies with hnot | ⟨certKey, hcertKey, happlies⟩
  · exact absurd hds (notMem_of_split hnot)
  obtain ⟨hrefused, hmade⟩ := h certKey hcertKey
  obtain ⟨hauthorized, hnext⟩ := happlies before after hds
  refine ⟨hauthorized, ?_⟩
  cases obstacle with
  | none =>
    obtain ⟨request, hrequest⟩ := hmade rfl
    rcases hnext with ⟨request', t, rest, hcreate, ht, hafter⟩ | ⟨e, hcreate, _, _⟩
    · exact ⟨certKey, request', t, rest, hcertKey, hcreate, ht, hafter⟩
    · rw [hrequest] at hcreate
      cases hcreate
  | some e =>
    have hcreate := hrefused e rfl
    rcases hnext with ⟨request, t, rest, hrequest, _, _⟩ | ⟨e', hcreate', hr, hafter⟩
    · rw [hcreate] at hrequest
      cases hrequest
    · rw [hcreate] at hcreate'
      cases hcreate'
      exact ⟨hafter, hr⟩

/-- For a valid configuration, the size of the key and the domains decide whether a request can be
made with a new key, and what comes of a run after all domains are authorized. -/
theorem run_applies (hvalid : config.IsValid) :
    (∀ (key : Rsa.PrivateKey) (pem : String), key.IsGenerated config.certKeyBits →
      key.pkcs8Pem? = some pem →
        match CertificateRequest.obstacle? config.certKeyBits config.domains with
        | none => ∃ request, CertificateRequest.create pem config.domains = .ok request
        | some e => CertificateRequest.create pem config.domains = .error e)
    ∧ ∀ (keys : KeySupply) (s : Session),
      (∀ pem, keys.certificate config.certKeyBits = .ok pem →
        ∃ key : Rsa.PrivateKey, key.IsGenerated config.certKeyBits ∧ key.pkcs8Pem? = some pem) →
      ∃ account deeds, Told config keys s account deeds
        ∧ Decided config keys s account deeds
          (CertificateRequest.obstacle? config.certKeyBits config.domains) := by
  have hbits := Config.certKeyBits_of_isValid hvalid
  obtain ⟨hne, _⟩ := Config.isDomain_of_isValid hvalid
  refine ⟨fun key pem hgenerated hpem => ?_, fun keys s hkeys => ?_⟩
  · obtain ⟨hrefused, hmade⟩ :=
      CertificateRequest.create_of_isGenerated hgenerated hpem hbits hne
    cases hobstacle : CertificateRequest.obstacle? config.certKeyBits config.domains with
    | none => exact hmade hobstacle
    | some e => exact hrefused e hobstacle
  · obtain ⟨account, deeds, htold⟩ := run_follows config keys s
    refine ⟨account, deeds, htold, htold.decided fun certKey hcertKey => ?_⟩
    obtain ⟨key, hgenerated, hpem⟩ := hkeys certKey hcertKey
    exact CertificateRequest.create_of_isGenerated hgenerated hpem hbits hne

/-- A valid configuration whose second domain cannot stand in a request. -/
def foreignConfig : Config where
  domains := ["example.com", "münchen.de"]
  caUrl := "acme://ca.test"
  agreement := "acme://ca.test/agreement"

theorem run_applies_foreignConfig :
    CertificateRequest.create Rsa.PrivateKey.prothPem foreignConfig.domains
        = .error (.unusableName "münchen.de")
      ∧ ∀ s, ∃ account deeds, Told foreignConfig prothKeys s account deeds
        ∧ Decided foreignConfig prothKeys s account deeds (some (.unusableName "münchen.de")) := by
  have hobstacle : CertificateRequest.obstacle? foreignConfig.certKeyBits foreignConfig.domains
      = some (.unusableName "münchen.de") := by decide +kernel
  obtain ⟨hcreate, hrun⟩ := run_applies (show foreignConfig.IsValid by decide +kernel)
  rw [hobstacle] at hcreate hrun
  refine ⟨hcreate Rsa.PrivateKey.prothKey _ Rsa.PrivateKey.isGenerated_prothKey
    Rsa.PrivateKey.pkcs8Pem?_prothKey, fun s => hrun prothKeys s fun pem hpem => ?_⟩
  cases hpem
  exact ⟨_, Rsa.PrivateKey.isGenerated_prothKey, Rsa.PrivateKey.pkcs8Pem?_prothKey⟩

end Acme.Run
