import Acme.Proofs.Run.Follows.Authorizing
import Acme.Proofs.Run.Follows.Files

/-!
# A run follows its course

What each part of a run does is told by the relation for that part (`run_follows` for the whole).
-/

namespace Acme

open Session Run

variable {client : Client} {s : Session}

/-! ## The certificate -/

theorem requestCertificate_follows (certKey : String) (domains : List String) :
    Does client s (requestCertificate client certKey domains) fun r ds g => g = s.guards ∧
      ((∃ e, CertificateRequest.create certKey domains = .error e ∧ ds = []
          ∧ r = .error (.certificateRequest e.message))
        ∨ ∃ request, CertificateRequest.create certKey domains = .ok request
          ∧ ∃ t : Turn, t.ask = client.certificateAsk request ∧ ds = [.asked t]
            ∧ r = t.certificate client.endpoints.newCert) := by
  rw [requestCertificate]
  cases hcreate : CertificateRequest.create certKey domains with
  | error e => exact Does.throw ⟨rfl, .inl ⟨e, rfl, rfl, rfl⟩⟩
  | ok request =>
    refine Does.step (log_does _ _ _) fun s₁ h₁ => ?_
    refine (postSigned_does _ _).bind_orFail ?_ ?_
    · rintro reply ds s₂ ⟨h₂, t, ht, hr, rfl⟩
      have hg : s₂.guards = s.guards := h₂.trans h₁
      have hc : t.certificate client.endpoints.newCert
          = CertificateReply.ofReply client.endpoints.newCert reply := by
        rw [Turn.certificate, hr]
      split
      · rename_i failure hreply
        rw [hreply] at hc
        exact Does.throw ⟨hg, .inr ⟨request, rfl, t, ht, rfl, hc.symm⟩⟩
      · rename_i problem hreply
        rw [hreply] at hc
        refine Does.step (log_does _ _ _) fun s₃ h₃ => ?_
        exact Does.pure ⟨h₃.trans hg, .inr ⟨request, rfl, t, ht, rfl, hc.symm⟩⟩
      · rename_i certificate hreply
        rw [hreply] at hc
        exact Does.pure ⟨hg, .inr ⟨request, rfl, t, ht, rfl, hc.symm⟩⟩
    · rintro e ds g ⟨hg, t, ht, hr, rfl⟩
      refine ⟨hg.trans h₁, .inr ⟨request, rfl, t, ht, rfl, ?_⟩⟩
      rw [Turn.certificate, hr]

theorem authorizeDomains_follows (config : Config) :
    Does client s (authorizeDomains config client) fun r ds g =>
      ∃ b es, g = marked s.guards b ∧ ds = entering .authStart :: es
        ∧ Authorizing config client 0 config.domains s.guards.registered es r b := by
  refine Does.step (enter_does _) fun s₁ h₁ => ?_
  refine Does.step (modify_does rfl rfl rfl rfl) fun s₂ h₂ => ?_
  refine (authorizeFrom_follows config 0 config.domains).mono ?_
  rintro r ds g ⟨b, hg, ha⟩
  rw [show s₂.guards = s.guards from h₂.trans h₁] at hg ha
  exact ⟨b, ds, hg, rfl, ha⟩

theorem authorizeAndRequest_follows (config : Config) (certKey : String) :
    Does client s (authorizeAndRequest config client certKey) fun r ds g =>
      ∃ b, g = marked s.guards b
        ∧ Requesting config client certKey s.guards.registered ds r b := by
  refine (authorizeDomains_follows config).bind ?_ ?_
  · rintro u ds s₁ ⟨b, es, h₁, rfl, ha⟩
    refine Does.step (enter_does _) fun s₂ h₂ => ?_
    refine (requestCertificate_follows certKey config.domains).mono ?_
    rintro r fs g ⟨hg, h⟩
    refine ⟨b, by rw [hg, h₂, h₁], ?_⟩
    rcases h with ⟨e, he, rfl, rfl⟩ | ⟨request, hr, t, ht, rfl, rfl⟩
    · exact .unrequested ha he
    · exact .requested ha hr ht
  · rintro f ds g ⟨b, es, hg, rfl, ha⟩
    exact ⟨b, hg, .unauthorized ha⟩

theorem issue_follows (config : Config) (certKey : String) :
    Does client s (issue config client certKey) fun r ds g =>
      Issuing config client certKey s.guards ds r g := by
  refine (authorizeAndRequest_follows config certKey).bind ?_ ?_
  · rintro reply ds s₁ ⟨b, h₁, hr⟩
    cases reply with
    | issued certificate =>
      refine Does.pure ?_
      rw [List.append_nil, h₁]
      exact .issued hr
    | unauthorized problem =>
      refine Does.step (log_does _ _ _) fun s₂ h₂ => ?_
      refine Does.step (modify_does rfl rfl rfl rfl) fun s₃ h₃ => ?_
      have hg : s₃.guards = ⟨b, true⟩ := by rw [h₃, h₂, h₁]
      refine (authorizeAndRequest_follows config certKey).bind ?_ ?_
      · rintro reply es s₄ ⟨b', h₄, hr'⟩
        rw [hg] at h₄ hr'
        have htwice := Issuing.twice hr hr'
        cases reply with
        | issued certificate =>
          refine Does.pure ?_
          rw [h₄, List.append_nil]
          exact htwice
        | unauthorized problem =>
          refine Does.throw ?_
          rw [h₄, List.append_nil]
          exact htwice
      · rintro f es g ⟨b', hg', hr'⟩
        rw [hg] at hg' hr'
        rw [hg']
        exact .twice hr hr'
  · rintro f ds g ⟨b, hg, hr⟩
    rw [hg]
    exact .failed hr

/-! ## The account key -/

theorem createAccountKey_follows (config : Config) (keys : KeySupply) :
    Does client s (createAccountKey config keys) fun r ds g => g = s.guards ∧
      ((∃ f, r = .error f ∧ Keeping config keys false ds (.error f))
        ∨ ∃ pem, r = .ok pem ∧ keys.account config.accountKeyBits = .ok pem
          ∧ Changing (privateSteps config.accountKey pem) ds none) := by
  rw [createAccountKey]
  split
  · rename_i hc
    exact Does.throw ⟨rfl, .inl ⟨_, rfl, .homeless rfl hc⟩⟩
  · refine Does.step (log_does _ _ _) fun s₁ h₁ => ?_
    cases hk : keys.account config.accountKeyBits with
    | error e => exact Does.throw ⟨h₁, .inl ⟨_, rfl, .unmade rfl hk⟩⟩
    | ok pem =>
      refine (saveAccountKey_follows _ _).bind_orFail ?_ ?_
      · rintro u ds s₂ ⟨h₂, fault, hr, hs⟩
        cases fault with
        | some fault => cases hr
        | none =>
          refine Does.pure ⟨h₂.trans h₁, .inr ⟨pem, rfl, rfl, ?_⟩⟩
          rw [List.append_nil]
          exact hs
      · rintro e ds g ⟨hg, fault, hr, hs⟩
        cases fault with
        | none => cases hr
        | some fault =>
          cases hr
          exact ⟨hg.trans h₁, .inl ⟨_, rfl, .unsaved rfl hk hs⟩⟩

/-- A key for the account: the one that is stored, or one that is made because nothing is. -/
def IsAccountKey (config : Config) (keys : KeySupply) (files : FileSystem) (pem : String) : Prop :=
  storedKey files config.accountKey = .ok (some pem)
    ∨ files.exists? config.accountKey = false ∧ keys.account config.accountKeyBits = .ok pem

/-- The account is that of a key. -/
def IsAccount (config : Config) (keys : KeySupply) (files : FileSystem) (account : Account) : Prop :=
  ∃ pem, IsAccountKey config keys files pem ∧ Account.ofPem? pem = some account

theorem exists?_eq_false_iff {files : FileSystem} {path : Path} :
    files.exists? path = false ↔ storedKey files path = .ok none := by
  rw [storedKey]
  split
  · rename_i h
    rw [h]
    refine ⟨fun h => Bool.noConfusion h, fun h => ?_⟩
    split at h
    · cases h
    · split at h
      · cases h
      · cases h
  · rename_i h
    rw [Bool.not_eq_true] at h
    exact ⟨fun _ => rfl, fun _ => h⟩

/-- A stored key is given out if it is valid; none is made then. -/
theorem ensureAccountKey_follows (config : Config) (keys : KeySupply) :
    Does client s (ensureAccountKey config keys) fun r ds g => g = s.guards ∧
      ((∃ f, r = .error f
          ∧ Keeping config keys (s.files.exists? config.accountKey) ds (.error f))
        ∨ (∃ pem, r = .ok (pem, false) ∧ storedKey s.files config.accountKey = .ok (some pem)
          ∧ s.files.exists? config.accountKey = true ∧ Rsa.isValidKey pem = true ∧ ds = [])
        ∨ ∃ pem, r = .ok (pem, true) ∧ s.files.exists? config.accountKey = false
          ∧ keys.account config.accountKeyBits = .ok pem
          ∧ Changing (privateSteps config.accountKey pem) ds none) := by
  have hload : Does client s (loadAccountKey config.accountKey) fun r ds g => g = s.guards ∧ ds = []
      ∧ r = storedKey s.files config.accountKey := by
    refine Does.get ?_
    cases storedKey s.files config.accountKey with
    | error e => exact Does.throw ⟨rfl, rfl, rfl⟩
    | ok pem => exact Does.pure ⟨rfl, rfl, rfl⟩
  refine hload.bind_orFail ?_ ?_
  · rintro found ds s₁ ⟨h₁, rfl, hr⟩
    cases found with
    | some pem =>
      have hp : s.files.exists? config.accountKey = true := by
        rw [← Bool.not_eq_false, exists?_eq_false_iff, ← hr]
        exact fun h => nomatch h
      dsimp only
      split
      · rename_i hvalid
        exact Does.pure ⟨h₁, .inr (.inl ⟨pem, rfl, hr.symm, hp, hvalid, rfl⟩)⟩
      · exact Does.throw ⟨h₁, .inl ⟨_, rfl, .unreadable hp⟩⟩
    | none =>
      have hp := exists?_eq_false_iff.2 hr.symm
      refine (createAccountKey_follows config keys).bind ?_ ?_
      · rintro pem ds s₂ ⟨h₂, h⟩
        rcases h with ⟨f, hf, _⟩ | ⟨pem', he, hk, hs⟩
        · cases hf
        · cases he
          refine Does.pure ⟨h₂.trans h₁, .inr (.inr ⟨pem, rfl, hp, hk, ?_⟩)⟩
          rw [List.append_nil]
          exact hs
      · rintro f ds g ⟨hg, h⟩
        rcases h with ⟨f', hf, hkeep⟩ | ⟨pem, he, _⟩
        · cases hf
          rw [hp]
          exact ⟨hg.trans h₁, .inl ⟨_, rfl, hkeep⟩⟩
        · cases he
  · rintro e ds g ⟨hg, rfl, hr⟩
    refine ⟨hg, .inl ⟨_, rfl, .unreadable ?_⟩⟩
    rw [← Bool.not_eq_false, exists?_eq_false_iff, ← hr]
    exact fun h => nomatch h

theorem ensureAccount_follows (config : Config) (keys : KeySupply) :
    Does client s (ensureAccount config keys) fun r ds g => g = s.guards ∧
      Keeping config keys (s.files.exists? config.accountKey) ds r ∧
      ∀ account isNew, r = .ok (account, isNew) → IsAccount config keys s.files account := by
  refine (ensureAccountKey_follows config keys).bind ?_ ?_
  · rintro ⟨pem, isNew⟩ ds s₁ ⟨h₁, h⟩
    dsimp only
    rcases h with ⟨f, hf, _⟩ | ⟨pem', he, hstored, hp, _, rfl⟩ | ⟨pem', he, hp, hk, hs⟩
    · cases hf
    · cases he
      rw [hp]
      cases ha : Account.ofPem? pem with
      | none => exact Does.throw ⟨h₁, .unreadable rfl, nofun⟩
      | some account =>
        refine Does.pure ⟨h₁, .loaded rfl, fun account' isNew h => ⟨pem, .inl hstored, ?_⟩⟩
        cases h
        exact ha
    · cases he
      rw [hp]
      cases ha : Account.ofPem? pem with
      | none =>
        refine Does.throw ⟨h₁, ?_, nofun⟩
        rw [List.append_nil]
        exact .unusable rfl hk hs ha
      | some account =>
        refine Does.pure ⟨h₁, ?_, fun account' isNew h => ⟨pem, .inr ⟨hp, hk⟩, ?_⟩⟩
        · rw [List.append_nil]
          exact .saved rfl hk hs ha
        · cases h
          exact ha
  · rintro f ds g ⟨hg, h⟩
    rcases h with ⟨f', hf, hkeep⟩ | ⟨pem, he, _⟩ | ⟨pem, he, _⟩
    · cases hf
      exact ⟨hg, hkeep, nofun⟩
    · cases he
    · cases he

/-! ## The run -/

namespace Run

/-- The CA is asked for a nonce before anything else, and without one this is the end. -/
inductive Greeting {α : Type} (r : Except Failure α) : List Deed → Prop
  | refused {t : Turn} {f : Failure} (ht : t.ask = .nonce) (hg : t.greeting = .error f)
    (hr : r = .error f) : Greeting r [entering .nonce, .asked t]
  | greeted {t : Turn} {ds : List Deed} (ht : t.ask = .nonce) (hg : t.greeting = .ok ()) :
    Greeting r (entering .nonce :: .asked t :: ds)

theorem Greeting.append {α β : Type} {ds : List Deed} {x : β}
    (h : Greeting (.ok x : Except Failure β) ds) (r : Except Failure α) (es : List Deed) :
    Greeting r (ds ++ es) := by
  cases h with
  | refused _ _ hr => cases hr
  | greeted ht hg => exact .greeted ht hg

end Run

/-- What is done once there is a nonce, and the account is registered if it is new. -/
theorem opening_follows (config : Config) (isNew : Bool) (hnone : s.nonce = none) {β : Type}
    {f : Unit → Action Failure β} {R : Except Failure β → List Deed → Guards → Prop}
    (hf : ∀ b ds s', Opening config client isNew s.guards.registered ds (.ok ()) b →
      Greeting (.ok () : Except Failure Unit) ds → s'.guards = marked s.guards b →
      Does client s' (f ()) fun r es g => R r (ds ++ es) g)
    (herror : ∀ b ds e, Opening config client isNew s.guards.registered ds (.error e) b →
      Greeting (.error e : Except Failure β) ds → R (.error e) ds (marked s.guards b)) :
    Does client s (enter .nonce >>= fun _ => client.refreshNonce >>= fun _ =>
      if isNew then register config client >>= f else f ()) R := by
  refine Does.step_after (enter_does _) ?_
  refine refreshNonce_does.bind ?_ ?_
  · rintro u ds s₂ ⟨hg, t, ht, rfl, _, hgreeting⟩
    have hgreeted := (hgreeting hnone).symm
    cases hn : isNew with
    | false => exact hf _ _ s₂ (.known ht hn) (.greeted ht hgreeted) hg
    | true =>
      refine (register_follows config).bind ?_ ?_
      · rintro u es s₃ ⟨h₃, hr⟩
        rw [hg] at h₃
        exact hf _ _ s₃ (.registering ht hn hr) (.greeted ht hgreeted) h₃
      · rintro e es g ⟨rfl, hr⟩
        rw [hg]
        exact herror _ _ e (.registering ht hn hr) (.greeted ht hgreeted)
  · rintro e ds g ⟨rfl, t, ht, rfl, h, hgreeting⟩
    rcases h with h | ⟨reason, h⟩
    · cases h
    · cases h
      exact herror _ _ _ (.nonceless ht) (.refused ht (hgreeting hnone).symm rfl)

theorem runWith_follows (config : Config) (isNew : Bool) (certKey : String)
    (hnone : s.nonce = none) :
    Does client s (runWith config client isNew certKey) fun r ds g =>
      Proceeding config client isNew certKey s.guards ds r g ∧ Greeting r ds := by
  refine opening_follows config isNew hnone ?_ ?_
  · intro b ds s₁ ho hgreeting h₁
    refine (issue_follows config certKey).bind ?_ ?_
    · rintro c es s₂ hi
      rw [h₁] at hi
      refine (writeCertificate_follows config certKey c).bind ?_ ?_
      · rintro ⟨keyPath, certPath⟩ fs s₃ ⟨h₃, r', hw, hr⟩
        cases r' with
        | error e => cases hr
        | ok u =>
          cases hr
          refine Does.step (enter_does _) fun s₄ h₄ => ?_
          refine (fetchIntermediate_follows config c.issuerUrl).bind ?_ ?_
          · rintro path gs s₅ ⟨h₅, r', hfetch, hr⟩
            cases r' with
            | error e => cases hr
            | ok u =>
              cases hr
              refine Does.step (enter_does _) fun s₆ h₆ => ?_
              refine (logged_does _ _ _ _).mono ?_
              rintro r es g ⟨rfl, rfl, hg⟩
              have hproceeding := Proceeding.issued ho hi (.delivered hw hfetch)
              rw [List.append_assoc] at hproceeding
              rw [hg, h₆, h₅, h₄, h₃]
              exact ⟨hproceeding, hgreeting.append _ _⟩
          · rintro e gs g ⟨hg, r', hfetch, hr⟩
            cases r' with
            | ok u => cases hr
            | error f =>
              cases hr
              have hproceeding := Proceeding.issued ho hi (.unfetched hw hfetch)
              rw [List.append_assoc] at hproceeding
              rw [hg, h₄, h₃]
              exact ⟨hproceeding, hgreeting.append _ _⟩
      · rintro e fs g ⟨hg, r', hw, hr⟩
        cases r' with
        | ok u => cases hr
        | error f =>
          cases hr
          have hproceeding := Proceeding.issued ho hi (.unwritten hw)
          rw [List.append_assoc] at hproceeding
          rw [hg]
          exact ⟨hproceeding, hgreeting.append _ _⟩
    · rintro e es g hi
      rw [h₁] at hi
      exact ⟨.unissued ho hi, hgreeting.append _ _⟩
  · intro b ds e ho hgreeting
    exact ⟨.unopened ho, hgreeting⟩

namespace Run

/-- The deeds are those of a run, in which this account converses with the CA. -/
structure Told (config : Config) (keys : KeySupply) (s : Session) (account : Account)
    (deeds : List Deed) : Prop where
  happened : Happened ⟨config.endpoints, account⟩ { s with nonce := none } deeds
    (s.after (run config keys))
  running : Running config keys (s.files.exists? config.accountKey) account deeds
    (s.outcome (run config keys)) (s.after (run config keys)).guards

/-- Once anything is asked of the CA, this begins with a request for a nonce, and the account is that
of a key. -/
structure Begun (config : Config) (keys : KeySupply) (files : FileSystem) (account : Account)
    (deeds : List Deed) (r : Except Failure IssuedFiles) : Prop where
  greeting : turnsOf deeds = [] ∨ ∃ front late, deeds = front ++ late ∧ turnsOf front = []
    ∧ Greeting r late
  account : turnsOf deeds = [] ∨ IsAccount config keys files account

end Run

/-- The account of a run that ends before there is one. -/
def anyAccount : Account := ⟨⟨⟨15, 3, 3, 3, 5⟩, by decide⟩⟩

/-- What a run does follows its course, and begins as it should, with the account that there is after
its first steps. -/
theorem run_ensured (config : Config) (keys : KeySupply) (s : Session) :
    ∃ account deeds, Told config keys s account deeds
      ∧ Begun config keys s.files account deeds (s.outcome (run config keys))
      ∧ ∀ found isNew, (s.after (begin config)).outcome (ensureAccount config keys)
        = .ok (found, isNew) → account = found := by
  -- The account is known only after the first steps, but these converse with nobody.
  let start := s.after (begin config)
  let account := match start.outcome (ensureAccount config keys) with
    | .ok (account, _) => account
    | .error _ => anyAccount
  have haccount (found : Account) (isNew : Bool)
      (h : start.outcome (ensureAccount config keys) = .ok (found, isNew)) : account = found := by
    show (match start.outcome (ensureAccount config keys) with
      | .ok (account, _) => account
      | .error _ => anyAccount) = found
    rw [h]
  let fresh : Session := { s with nonce := none }
  have hdoes : Does ⟨config.endpoints, account⟩ fresh (run config keys) fun r ds g =>
      Running config keys (s.files.exists? config.accountKey) account ds r g
        ∧ Begun config keys s.files account ds r := by
    have hbegin : JustDoes ⟨config.endpoints, account⟩ fresh (begin config)
        [entering .init] {} := by
      refine Does.step (modify_does rfl rfl rfl rfl) fun s₁ h₁ => ?_
      refine (enter_does _).mono ?_
      rintro r ds g ⟨rfl, rfl, rfl⟩
      exact ⟨rfl, rfl, h₁⟩
    refine hbegin.step_after ?_
    refine (ensureAccount_follows config keys).and_outcome.bind_happened ?_ ?_
    · rintro ⟨account', isNew⟩ ds s₁ hd ⟨⟨h₁, hk, hkey⟩, ho⟩
      have haccount : account = account' := haccount account' isNew ho.symm
      have his : IsAccount config keys s.files account' := hkey account' isNew rfl
      have hturns : turnsOf ds = [] := hk.turns
      have hnone : s₁.nonce = none := by
        have hconversation := hd.conversation
        rw [hturns] at hconversation
        exact hconversation.slot_of_nil
      rw [← haccount] at hk his ⊢
      refine Does.step_after (log_does _ _ _) ?_
      generalize hlogged : s₁.after _ = s₂
      have hg : s₂.guards = {} := by
        rw [← hlogged]
        exact h₁
      have hnone' : s₂.nonce = none := by
        rw [← hlogged]
        exact hnone
      cases hc : keys.certificate config.certKeyBits with
      | error e =>
        have hrunning := Running.unkeyed hk hc
        rw [← List.append_nil ds] at hrunning
        refine Does.throw ⟨?_, .inl ?_, .inr his⟩
        · rw [hg]
          exact hrunning
        · show turnsOf (ds ++ []) = []
          rw [List.append_nil, hturns]
      | ok certKey =>
        refine (runWith_follows config isNew certKey hnone').mono ?_
        rintro r es g ⟨hp, hgreeting⟩
        rw [hg] at hp
        have hrunning := Running.proceeding hk hc hp
        exact ⟨hrunning, .inr ⟨entering .init :: ds, es, rfl, hturns, hgreeting⟩, .inr his⟩
    · rintro f ds g ⟨⟨rfl, hk, _⟩, _⟩
      exact ⟨.unkept hk, .inl hk.turns, .inl hk.turns⟩
  obtain ⟨deeds, hd, hr, hb⟩ := hdoes
  refine ⟨account, deeds, ⟨hd, hr⟩, hb, fun found isNew hfound => ?_⟩
  exact haccount found isNew hfound

theorem run_begun (config : Config) (keys : KeySupply) (s : Session) :
    ∃ account deeds, Told config keys s account deeds
      ∧ Begun config keys s.files account deeds (s.outcome (run config keys)) := by
  obtain ⟨account, deeds, htold, hbegun, _⟩ := run_ensured config keys s
  exact ⟨account, deeds, htold, hbegun⟩

theorem run_follows (config : Config) (keys : KeySupply) (s : Session) :
    ∃ account deeds, Told config keys s account deeds := by
  obtain ⟨account, deeds, htold, _⟩ := run_begun config keys s
  exact ⟨account, deeds, htold⟩

end Acme
