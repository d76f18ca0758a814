import Acme.Proofs.Run.Follows
import Acme.Proofs.Run.Language
import Acme.Proofs.Run.Machine
import Acme.Proofs.Run.Success

/-!
# The protocol of a run

A run converses with the CA in the language of `protocol`, and what it asks for depends on the reply
before (`Permits`). Requests that fill the slot of the nonce come in between, and requests whose
refusal is not fatal may be left out (`run_dialogue`).
-/

namespace Acme.Run

/-! ## What may be asked next -/

/-- After a turn this may be asked next. -/
inductive Permits (client : Client) (t : Turn) : Ask → Prop
  | enrolment {email agreement : String} (ht : t.ask = .nonce) :
    Permits client t (client.registrationAsk email agreement)
  | start {domain : String} (ht : t.ask = .nonce) :
    Permits client t (client.authorizationAsk domain)
  | enrolled {email agreement domain : String} (ht : t.ask = client.registrationAsk email agreement)
    (hok : t.tolerated = .ok ()) : Permits client t (client.authorizationAsk domain)
  | correction {email agreement : String} (h : AuthorizationRefused client t) :
    Permits client t (client.registrationAsk email agreement)
  | offered {domain : String} {c : PendingChallenge} (ht : t.ask = client.authorizationAsk domain)
    (hc : t.authorization domain = .ok (.challenge c)) : Permits client t (client.activationAsk c)
  | activated {c : PendingChallenge} (ht : t.ask = client.activationAsk c)
    (hok : t.tolerated = .ok ()) : Permits client t (.plain c.uri)
  | pending {url domain : String} (ht : t.ask = .plain url) (hv : t.verdict domain = .pending) :
    Permits client t (.plain url)
  | next {url domain domain' : String} (ht : t.ask = .plain url) (hv : t.verdict domain = .valid) :
    Permits client t (client.authorizationAsk domain')
  | last {url domain : String} {request : CertificateRequest} (ht : t.ask = .plain url)
    (hv : t.verdict domain = .valid) : Permits client t (client.certificateAsk request)
  | restart {domain : String} (h : CertificateRefused client t) :
    Permits client t (client.authorizationAsk domain)
  | issued {request : CertificateRequest} {c : IssuedCertificate}
    (ht : t.ask = client.certificateAsk request)
    (hc : t.certificate client.endpoints.newCert = .ok (.issued c)) :
    Permits client t (.plain c.issuerUrl)

/-- A turn in which nothing was sent is followed by another only if its refusal is not fatal. -/
theorem Permits.unsent {client : Client} {t : Turn} {ask : Ask} (h : Permits client t ask)
    {held held' : Option String} (hs : t.Step client held held') (hnone : t.sent = none) :
    ((∃ email agreement, t.ask = client.registrationAsk email agreement)
        ∨ ∃ c, t.ask = client.activationAsk c)
      ∧ t.Prevented client := by
  obtain ⟨e, he, hprevented⟩ := hs.unsent_spec hnone
  have plain {P : Prop} (ht : t.ask.isSigned = false) : P :=
    absurd hnone (hs.sent_of_not_isSigned ht)
  have tolerated (hok : t.tolerated = .ok ()) : t.Prevented client := by
    refine hprevented fun reason hr => ?_
    rw [Turn.tolerated_of_noNonce (he.trans (congrArg _ hr))] at hok
    cases hok
  have authorized {P : Prop} {domain : String} {reply : AuthorizationReply}
      (h : t.authorization domain = .ok reply) : P := by
    rw [Turn.authorization, he] at h
    cases h
  have certified {P : Prop} {reply : CertificateReply}
      (h : t.certificate client.endpoints.newCert = .ok reply) : P := by
    rw [Turn.certificate, he] at h
    cases h
  cases h with
  | enrolment ht => exact plain (by rw [ht]; rfl)
  | start ht => exact plain (by rw [ht]; rfl)
  | enrolled ht hok => exact ⟨.inl ⟨_, _, ht⟩, tolerated hok⟩
  | correction h =>
    obtain ⟨_, _, _, h⟩ := h
    exact authorized h
  | offered _ hc => exact authorized hc
  | activated ht hok => exact ⟨.inr ⟨_, ht⟩, tolerated hok⟩
  | pending ht => exact plain (by rw [ht]; rfl)
  | next ht => exact plain (by rw [ht]; rfl)
  | last ht => exact plain (by rw [ht]; rfl)
  | restart h =>
    obtain ⟨_, _, _, h⟩ := h
    exact certified h
  | issued _ hc => exact certified hc

/-! ## Threads -/

variable {α β : Type} {config : Config} {client : Client}

/-- When a turn such as `P` describes comes before, every turn among the deeds is permitted by the
one before it. If the part of the run does not fail, the last of all turns is such as `Q` describes.
The truth values tell whether registration was attempted, before and after. -/
structure Threads (client : Client) (P : Turn → Prop) (b : Bool) (ds : List Deed)
    (r : Except Failure α) (b' : Bool) (Q : α → Turn → Prop) : Prop where
  chain : ∀ t, P t → (t :: turnsOf ds).IsChain fun u v => Permits client u v.ask
  last : ∀ t, P t → ∀ u x, (t :: turnsOf ds).getLast? = some u → r = .ok x → Q x u
  count : (asksOf ds).countP Ask.isRegistration + b.toNat ≤ b'.toNat

namespace Threads

variable {P P' : Turn → Prop} {Q : α → Turn → Prop} {Q' : β → Turn → Prop} {b b' b'' : Bool}
  {ds es : List Deed} {r : Except Failure α} {r' : Except Failure β} {f : Failure} {x : α}

theorem silent (hds : asksOf ds = []) (hq : ∀ t, P t → ∀ x, r = .ok x → Q x t) :
    Threads client P b ds r b Q := by
  have hturns : turnsOf ds = [] := List.map_eq_nil_iff.1 hds
  constructor
  · intro t _
    rw [hturns]
    exact .singleton t
  · intro t ht u x hu hr
    rw [hturns] at hu
    cases hu
    exact hq t ht x hr
  · rw [hds]
    exact (Nat.zero_add _).le

theorem ask {t : Turn} (hp : ∀ u, P u → Permits client u t.ask)
    (hb : [t.ask].countP Ask.isRegistration + b.toNat ≤ b'.toNat) (hq : ∀ x, r = .ok x → Q x t) :
    Threads client P b [.asked t] r b' Q := by
  constructor
  · intro u hu
    exact .cons_cons (hp u hu) (.singleton t)
  · intro u _ v x hv hr
    cases hv
    exact hq x hr
  · exact hb

theorem append (h : Threads client P b ds (.ok x) b' Q) (h' : Threads client (Q x) b' es r' b'' Q') :
    Threads client P b (ds ++ es) r' b'' Q' := by
  -- The second part goes on from the last turn of the first, or from the one before both.
  have hlast (t : Turn) (ht : P t) : ∃ init u, t :: turnsOf ds = init ++ [u] ∧ Q x u := by
    rcases List.eq_nil_or_concat (t :: turnsOf ds) with hnil | ⟨init, u, hu⟩
    · cases hnil
    · rw [List.concat_eq_append] at hu
      exact ⟨init, u, hu, h.last t ht u x (by rw [hu, List.getLast?_concat]) rfl⟩
  have hsplit {t u : Turn} {init : List Turn} (hu : t :: turnsOf ds = init ++ [u]) :
      t :: turnsOf (ds ++ es) = init ++ u :: turnsOf es := by
    rw [turnsOf_append, ← List.cons_append, hu, List.append_assoc]
    rfl
  constructor
  · intro t ht
    obtain ⟨init, u, hu, hq⟩ := hlast t ht
    rw [hsplit hu, List.isChain_split, ← hu]
    exact ⟨h.chain t ht, h'.chain u hq⟩
  · intro t ht v y hv hr
    obtain ⟨init, u, hu, hq⟩ := hlast t ht
    rw [hsplit hu, List.getLast?_append, List.getLast?_cons] at hv
    exact h'.last u hq v y (by rw [List.getLast?_cons]; exact hv) hr
  · have hcount := h.count
    have hcount' := h'.count
    rw [asksOf_append, List.countP_append]
    omega

/-- A deed in which nothing is asked may come before. -/
theorem other (event : Event) (h : Threads client P b ds r b' Q) :
    Threads client P b (.other event :: ds) r b' Q :=
  ⟨h.chain, h.last, h.count⟩

theorem failed (h : Threads client P b ds (.error f : Except Failure β) b' Q') :
    Threads client P b ds (.error f : Except Failure α) b' Q :=
  ⟨h.chain, fun _ _ _ _ _ hr => (by cases hr), h.count⟩

theorem pre (h : Threads client P b ds r b' Q) (hp : ∀ t, P' t → P t) :
    Threads client P' b ds r b' Q :=
  ⟨fun t ht => h.chain t (hp t ht), fun t ht => h.last t (hp t ht), h.count⟩

/-- The result may be replaced by one that is good only when the result was. -/
theorem result (h : Threads client P b ds r b' Q)
    (hr : ∀ y, r' = .ok y → ∃ x, r = .ok x ∧ ∀ t, Q x t → Q' y t) :
    Threads client P b ds r' b' Q' := by
  refine ⟨h.chain, fun t ht u y hu hy => ?_, h.count⟩
  obtain ⟨x, hx, hq⟩ := hr y hy
  exact hq u (h.last t ht u x hu hx)

end Threads

/-! ## Authorizing -/

/-- The next domain may be authorized, and the certificate may be asked for. -/
def Free (client : Client) (t : Turn) : Prop :=
  (∀ domain, Permits client t (client.authorizationAsk domain))
    ∧ ∀ request, Permits client t (client.certificateAsk request)

theorem Registering.threads {ds : List Deed} {r : Except Failure Unit} {P : Turn → Prop}
    (h : Registering config client ds r)
    (hp : ∀ t, P t → ∀ email agreement, Permits client t (client.registrationAsk email agreement)) :
    Threads client P false ds r true
      fun _ t => ∀ domain, Permits client t (client.authorizationAsk domain) := by
  cases h with
  | homeless => exact ⟨fun t _ => .singleton t, fun _ _ _ _ _ h => (by cases h), Nat.zero_le _⟩
  | @asked email t hc ht =>
    refine .other _ (.ask (fun u hu => ht ▸ hp u hu _ _) ?_ fun _ hok _ => .enrolled ht hok)
    rw [ht]
    exact Nat.le_refl 1

theorem Obtaining.threads {i : Nat} {domain : String} {ds : List Deed}
    {r : Except Failure PendingChallenge} {b b' : Bool}
    (h : Obtaining config client i domain b ds r b') :
    Threads client (fun t => Permits client t (client.authorizationAsk domain)) b ds r b'
      fun c t => Permits client t (client.activationAsk c) := by
  have hask {γ : Type} {t : Turn} {b : Bool} {r : Except Failure γ} {Q : γ → Turn → Prop}
      (ht : t.ask = client.authorizationAsk domain) (hq : ∀ x, r = .ok x → Q x t) :
      Threads client (fun t => Permits client t (client.authorizationAsk domain)) b
        [entering (.challenge i), .asked t] r b Q := by
    refine .other _ (.ask (fun _ hu => ht ▸ hu) ?_ hq)
    rw [ht]
    exact (Nat.zero_add _).le
  have hrefused {t : Turn} {problem : Problem} (ht : t.ask = client.authorizationAsk domain)
      (hp : t.authorization domain = .ok (.unauthorized problem)) :
      Threads client (fun t => Permits client t (client.authorizationAsk domain)) false
        [entering (.challenge i), .asked t] (.ok () : Except Failure Unit) false
        fun _ => AuthorizationRefused client :=
    hask ht fun _ _ => ⟨domain, problem, ht, hp⟩
  have hregister {ds : List Deed} {r : Except Failure Unit} (hr : Registering config client ds r) :=
    hr.threads fun t (ht : AuthorizationRefused client t) _ _ => .correction ht
  cases h with
  | failed ht => exact hask ht fun _ h => (by cases h)
  | offered ht hc =>
    refine hask ht fun c h => ?_
    cases h
    exact .offered ht hc
  | refused ht => exact hask ht fun _ h => (by cases h)
  | unregistered ht hp hr => exact (hrefused ht hp).append (hregister hr).failed
  | registered ht hp hr ht' =>
    refine (hrefused ht hp).append ((hregister hr).append ((hask ht' ?_).pre fun _ h => h domain))
    exact fun c hc => .offered ht' (offered_eq_ok hc)

theorem Polling.threads {policy : PollPolicy} {c : PendingChallenge} {remaining : Nat}
    {ds : List Deed} {r : Except Failure Unit} (h : Polling policy c remaining ds r) (b : Bool) :
    Threads client (fun t => Permits client t (.plain c.uri)) b ds r b fun _ => Free client := by
  have hask {t : Turn} {r : Except Failure Unit} {Q : Unit → Turn → Prop} (ht : t.ask = .plain c.uri)
      (hq : ∀ x, r = .ok x → Q x t) :
      Threads client (fun t => Permits client t (.plain c.uri)) b [.asked t] r b Q := by
    refine .ask (fun _ hu => ht ▸ hu) ?_ hq
    rw [ht]
    exact (Nat.zero_add _).le
  induction h with
  | spent => exact .silent rfl fun _ _ _ h => (by cases h)
  | valid ht hv => exact hask ht fun _ _ => ⟨fun _ => .next ht hv, fun _ => .last ht hv⟩
  | failed ht => exact hask ht fun _ h => (by cases h)
  | @pending remaining t _ _ ht hv _ ih =>
    have hfirst : Threads client (fun t => Permits client t (.plain c.uri)) b [.asked t]
        (.ok () : Except Failure Unit) b fun _ t => Permits client t (.plain c.uri) :=
      hask ht fun _ _ => .pending ht hv
    have hpause : Threads client (fun t => Permits client t (.plain c.uri)) b
        (pause policy remaining) (.ok () : Except Failure Unit) b
        fun _ t => Permits client t (.plain c.uri) :=
      .silent (asksOf_pause policy remaining) fun _ ht _ _ => ht
    exact hfirst.append (hpause.append ih)

theorem Deciding.threads {policy : PollPolicy} {c : PendingChallenge} {ds : List Deed}
    {r : Except Failure Unit} (h : Deciding client policy c ds r) (b : Bool) :
    Threads client (fun t => Permits client t (client.activationAsk c)) b ds r b
      fun _ => Free client := by
  have hask {t : Turn} {r : Except Failure Unit} {Q : Unit → Turn → Prop}
      (ht : t.ask = client.activationAsk c) (hq : ∀ x, r = .ok x → Q x t) :
      Threads client (fun t => Permits client t (client.activationAsk c)) b [.asked t] r b Q := by
    refine .ask (fun _ hu => ht ▸ hu) ?_ hq
    rw [ht]
    exact (Nat.zero_add _).le
  cases h with
  | unactivated ht => exact hask ht fun _ h => (by cases h)
  | @polled t _ _ _ ht hok hp =>
    have hfirst : Threads client (fun t => Permits client t (client.activationAsk c)) b [.asked t]
        (.ok () : Except Failure Unit) b fun _ t => Permits client t (.plain c.uri) :=
      hask ht fun _ _ => .activated ht hok
    exact hfirst.append (.other _ (hp.threads b))

theorem Completing.threads {c : PendingChallenge} {ds : List Deed} {r : Except Failure Unit}
    (h : Completing config client c ds r) (b : Bool) :
    Threads client (fun t => Permits client t (client.activationAsk c)) b ds r b
      fun _ => Free client := by
  cases h with
  | deaf => exact .silent rfl fun _ _ _ h => (by cases h)
  | @served start ds _ hs hd =>
    have hstart : asksOf start = [] := by
      rcases hs with rfl | rfl
      · rfl
      · rfl
    have hlisten : Threads client (fun t => Permits client t (client.activationAsk c)) b start
        (.ok () : Except Failure Unit) b fun _ t => Permits client t (client.activationAsk c) :=
      .silent hstart fun _ ht _ _ => ht
    refine hlisten.append (.other _ ?_)
    have hwithdraw : turnsOf (ds ++ [.other (.withdrawn c.token)]) = turnsOf ds := by
      rw [turnsOf_append]
      exact List.append_nil _
    have hinner := hd.threads b
    constructor
    · rw [hwithdraw]
      exact hinner.chain
    · rw [hwithdraw]
      exact hinner.last
    · rw [asksOf, hwithdraw]
      exact hinner.count

theorem Passing.threads {i : Nat} {domain : String} {ds : List Deed} {r : Except Failure Unit}
    {b b' : Bool} (h : Passing config client i domain b ds r b') :
    Threads client (fun t => Permits client t (client.authorizationAsk domain)) b ds r b'
      fun _ => Free client := by
  cases h with
  | unobtained ho => exact ho.threads.failed
  | obtained ho hc => exact ho.threads.append (hc.threads _)

theorem Authorizing.threads {i : Nat} {domains : List String} {ds : List Deed}
    {r : Except Failure Unit} {b b' : Bool} (h : Authorizing config client i domains b ds r b') :
    Threads client (Free client) b ds r b' fun _ => Free client := by
  induction h with
  | nil => exact .silent rfl fun _ ht _ _ => ht
  | stopped hp => exact hp.threads.failed.pre fun _ ht => ht.1 _
  | cons hp _ ih => exact (hp.threads.append ih).pre fun _ ht => ht.1 _

/-- Some domain is authorized before the certificate can be asked for. -/
theorem Authorizing.threads_of_ne_nil {i : Nat} {domains : List String} {ds : List Deed}
    {r : Except Failure Unit} {b b' : Bool} (h : Authorizing config client i domains b ds r b')
    (hne : domains ≠ []) :
    Threads client (fun t => ∀ domain, Permits client t (client.authorizationAsk domain)) b ds r b'
      fun _ => Free client := by
  cases h with
  | nil => exact absurd rfl hne
  | stopped hp => exact hp.threads.failed.pre fun _ ht => ht _
  | cons hp hr => exact (hp.threads.append hr.threads).pre fun _ ht => ht _

/-! ## The certificate -/

theorem Requesting.threads {certKey : String} {ds : List Deed} {r : Except Failure CertificateReply}
    {b b' : Bool} (h : Requesting config client certKey b ds r b') (hne : config.domains ≠ []) :
    Threads client (fun t => ∀ domain, Permits client t (client.authorizationAsk domain)) b ds r b'
      fun reply t => match reply with
        | .issued c => Permits client t (.plain c.issuerUrl)
        | .unauthorized _ => CertificateRefused client t := by
  cases h with
  | unauthorized ha => exact .other _ (ha.threads_of_ne_nil hne).failed
  | unrequested ha =>
    exact .other _ ((ha.threads_of_ne_nil hne).append (.silent rfl fun _ _ _ h => (by cases h)))
  | requested ha hr ht =>
    refine .other _ ((ha.threads_of_ne_nil hne).append (.other _ (.ask ?_ ?_ ?_)))
    · intro u hu
      rw [ht]
      exact hu.2 _
    · rw [ht]
      exact (Nat.zero_add _).le
    · intro reply hreply
      cases reply with
      | issued c => exact .issued ht hreply
      | unauthorized problem => exact (certificateRefused_iff ht).2 ⟨problem, hreply⟩

theorem Issuing.threads {certKey : String} {ds : List Deed} {r : Except Failure IssuedCertificate}
    {g g' : Guards} (h : Issuing config client certKey g ds r g') (hne : config.domains ≠ []) :
    Threads client (fun t => ∀ domain, Permits client t (client.authorizationAsk domain))
      g.registered ds r g'.registered fun c t => Permits client t (.plain c.issuerUrl) := by
  cases h with
  | failed hr => exact (hr.threads hne).failed
  | issued hr =>
    refine (hr.threads hne).result fun c hc => ?_
    cases hc
    exact ⟨_, rfl, fun _ ht => ht⟩
  | twice hr hr' =>
    have hagain := (hr'.threads hne).pre fun t (ht : CertificateRefused client t) _ => .restart ht
    exact (hr.threads hne).append
      (hagain.result fun c hc => ⟨_, issuedAtLast_eq_ok hc, fun _ ht => ht⟩)

/-! ## The run -/

theorem Fetching.threads {url : String} {ds : List Deed} {r : Except Failure Unit}
    (h : Fetching config url ds r) (b : Bool) :
    Threads client (fun t => Permits client t (.plain url)) b ds r b fun _ _ => True := by
  have hask {t : Turn} {ds : List Deed} (ht : t.ask = .plain url) (hds : asksOf ds = []) :
      Threads client (fun t => Permits client t (.plain url)) b (.asked t :: ds) r b
        fun _ _ => True := by
    have hfirst : Threads client (fun t => Permits client t (.plain url)) b [.asked t]
        (.ok () : Except Failure Unit) b fun _ _ => True := by
      refine .ask (fun _ hu => ht ▸ hu) ?_ fun _ _ => trivial
      rw [ht]
      exact (Nat.zero_add _).le
    exact hfirst.append (.silent hds fun _ _ _ _ => trivial)
  cases h with
  | unfetched ht => exact hask ht rfl
  | unwritten ht _ hi => exact hask ht hi.asks
  | written ht _ hi => exact hask ht hi.asks

theorem Delivering.threads {certKey : String} {c : IssuedCertificate} {ds : List Deed}
    {r : Except Failure IssuedFiles} (h : Delivering config certKey c ds r) (b : Bool) :
    Threads client (fun t => Permits client t (.plain c.issuerUrl)) b ds r b fun _ _ => True := by
  have hwrite {ds : List Deed} {r : Except Failure Unit} (hw : Writing config certKey c ds r) :
      Threads client (fun t => Permits client t (.plain c.issuerUrl)) b ds r b
        fun _ t => Permits client t (.plain c.issuerUrl) :=
    .silent hw.asks fun _ ht _ _ => ht
  cases h with
  | unwritten hw => exact (hwrite hw).failed
  | unfetched hw hf => exact (hwrite hw).append (.other _ (hf.threads b).failed)
  | delivered hw hf =>
    have hdone : Threads client (fun _ => True) b [entering .done] (.ok (files config)) b
        fun _ _ => True := .silent rfl fun _ _ _ _ => trivial
    exact (hwrite hw).append (.other _ ((hf.threads b).append hdone))

/-- A run opens by asking for a nonce. -/
theorem Opening.threads {isNew : Bool} {ds : List Deed} {r : Except Failure Unit} {b : Bool}
    (h : Opening config client isNew false ds r b) :
    ∃ t es, t.ask = .nonce ∧ ds = [entering .nonce, .asked t] ++ es
      ∧ Threads client (fun t => t.ask = .nonce) false es r b
        fun _ t => ∀ domain, Permits client t (client.authorizationAsk domain) := by
  cases h with
  | nonceless ht => exact ⟨_, [], ht, rfl, .silent rfl fun _ _ _ h => (by cases h)⟩
  | known ht => exact ⟨_, [], ht, rfl, .silent rfl fun _ ht _ _ _ => .start ht⟩
  | registering ht _ hr => exact ⟨_, _, ht, rfl, hr.threads fun _ ht _ _ => .enrolment ht⟩

theorem Proceeding.threads {isNew : Bool} {certKey : String} {ds : List Deed}
    {r : Except Failure IssuedFiles} {g : Guards}
    (h : Proceeding config client isNew certKey {} ds r g) (hne : config.domains ≠ []) :
    ∃ t es, t.ask = .nonce ∧ ds = [entering .nonce, .asked t] ++ es
      ∧ Threads client (fun t => t.ask = .nonce) false es r g.registered fun _ _ => True := by
  cases h with
  | unopened ho =>
    obtain ⟨t, es, ht, rfl, hthreads⟩ := ho.threads
    exact ⟨t, es, ht, rfl, hthreads.failed⟩
  | unissued ho hi =>
    obtain ⟨t, es, ht, rfl, hthreads⟩ := ho.threads
    refine ⟨t, _, ht, List.append_assoc _ _ _, ?_⟩
    exact hthreads.append (hi.threads hne).failed
  | issued ho hi hd =>
    obtain ⟨t, es, ht, rfl, hthreads⟩ := ho.threads
    refine ⟨t, _, ht, by rw [List.append_assoc, List.append_assoc], ?_⟩
    exact hthreads.append ((hi.threads hne).append (hd.threads _))

theorem Running.threads {keys : KeySupply} {present : Bool} {account : Account} {ds : List Deed}
    {r : Except Failure IssuedFiles} {g : Guards}
    (h : Running config keys present account ds r g) (hne : config.domains ≠ []) :
    (turnsOf ds).IsChain (fun t t' => Permits ⟨config.endpoints, account⟩ t t'.ask)
      ∧ (asksOf ds).countP Ask.isRegistration ≤ 1 := by
  have hsilent {ds : List Deed} (hds : asksOf ds = []) :
      (turnsOf (entering .init :: ds)).IsChain
          (fun t t' => Permits ⟨config.endpoints, account⟩ t t'.ask)
        ∧ (asksOf (entering .init :: ds)).countP Ask.isRegistration ≤ 1 := by
    rw [asksOf, turnsOf_other, List.map_eq_nil_iff.1 hds]
    exact ⟨.nil, Nat.zero_le 1⟩
  cases h with
  | unkept hk => exact hsilent hk.asks
  | unkeyed hk => exact hsilent hk.asks
  | @proceeding ds _ _ _ _ _ hk _ hp =>
    obtain ⟨t, es, ht, rfl, hthreads⟩ := hp.threads hne
    have hturns : turnsOf (entering .init :: (ds ++ ([entering .nonce, .asked t] ++ es)))
        = t :: turnsOf es := by
      rw [turnsOf_other, turnsOf_append, List.map_eq_nil_iff.1 hk.asks]
      rfl
    rw [asksOf, hturns]
    refine ⟨hthreads.chain t ht, ?_⟩
    have hcount := hthreads.count
    have hle := Bool.toNat_le g.registered
    rw [List.map_cons, ht, List.countP_cons_of_neg Bool.false_ne_true]
    exact hcount.trans hle

/-- A run that succeeds ends with a request that is not signed. -/
theorem not_isSigned_of_mem_protocol {isNew : Bool} {asks : List Ask} {ask : Ask}
    (h : asks ++ [ask] ∈ protocol config client isNew) : ask.isSigned = false := by
  obtain ⟨v, _, w, ⟨url, rfl⟩, heq⟩ := Language.mem_mul.1 h
  obtain ⟨_, hlast⟩ := List.append_inj' heq rfl
  cases hlast
  rfl

/-- How the requests of a run, the replies and the result go together. What is asked in its turns is
told by `asksOf`; where something was sent for it, the turn has the exchange in `Turn.sent`, and the
exchange that filled the slot of the nonce before in `Turn.refill`. -/
structure Dialogue (config : Config) (keys : KeySupply) (s : Session) (account : Account)
    (deeds : List Deed) : Prop where
  exchanges : (s.after (run config keys)).exchanges
    = s.exchanges ++ (turnsOf deeds).flatMap Turn.exchanges
  sent : ∀ t ∈ turnsOf deeds, ∀ x, t.sent = some x →
    Client.Requests ⟨config.endpoints, account⟩ t.ask x.request ∧ t.result = x.result
  /-- The slot is filled before a turn if it is empty and a signature is needed. -/
  refill : ∀ before t after, turnsOf deeds = before ++ t :: after →
    ∃ held, Conversation ⟨config.endpoints, account⟩ none before held
      ∧ (t.refill.isSome = true ↔ held = none ∧ t.ask.isSigned = true)
      ∧ ∀ y, t.refill = some y → y.request = Client.nonceRequest ⟨config.endpoints, account⟩
  begun : asksOf deeds ∈ cut
    (protocol config ⟨config.endpoints, account⟩ (!s.files.exists? config.accountKey))
  whole : ∀ files, s.outcome (run config keys) = .ok files → asksOf deeds
    ∈ protocol config ⟨config.endpoints, account⟩ (!s.files.exists? config.accountKey)
  permitted : (turnsOf deeds).IsChain fun t t' => Permits ⟨config.endpoints, account⟩ t t'.ask
  registered : (asksOf deeds).countP Ask.isRegistration ≤ 1
  /-- Only a registration or an activation is left out without the end of the run. -/
  skipped : ∀ before t after, turnsOf deeds = before ++ t :: after → t.sent = none →
    (after = [] ∧ ∃ f, s.outcome (run config keys) = .error f) ∨
      ((∃ email agreement, t.ask
            = Client.registrationAsk ⟨config.endpoints, account⟩ email agreement)
          ∨ ∃ c, t.ask = Client.activationAsk ⟨config.endpoints, account⟩ c)
        ∧ t.Prevented ⟨config.endpoints, account⟩

/-- Every run converses with the CA as its protocol has it. -/
theorem run_dialogue (config : Config) (keys : KeySupply) (s : Session) (hne : config.domains ≠ [])
    (hp : 1 ≤ config.policy.maxPolls) :
    ∃ account deeds, Told config keys s account deeds ∧ Dialogue config keys s account deeds := by
  obtain ⟨account, deeds, htold⟩ := run_follows config keys s
  have hspeaks := htold.running.speaks hp
  obtain ⟨hchain, hcount⟩ := htold.running.threads hne
  have hsteps {before after : List Turn} {t : Turn} (h : turnsOf deeds = before ++ t :: after) :
      ∃ held held', Conversation ⟨config.endpoints, account⟩ none before held
        ∧ t.Step ⟨config.endpoints, account⟩ held held' := by
    have hconversation := htold.happened.conversation
    rw [h] at hconversation
    exact hconversation.step_at
  refine ⟨account, deeds, htold, ?_⟩
  constructor
  case exchanges => exact htold.happened.exchanges
  case begun => exact hspeaks.cut
  case whole => exact hspeaks.whole
  case permitted => exact hchain
  case registered => exact hcount
  case sent =>
    intro t ht x hx
    obtain ⟨before, after, h⟩ := List.append_of_mem ht
    obtain ⟨held, held', _, hstep⟩ := hsteps h
    exact hstep.sent_spec hx
  case refill =>
    intro before t after h
    obtain ⟨held, held', hbefore, hstep⟩ := hsteps h
    exact ⟨held, hbefore, hstep.refill_iff, fun y hy => hstep.refill_request hy⟩
  case skipped =>
    intro before t after h hnone
    obtain ⟨held, held', _, hstep⟩ := hsteps h
    -- Either something is asked next, and then the refusal was not fatal, or the run is over.
    cases after with
    | cons t' after =>
      rw [h, List.isChain_append_cons_cons] at hchain
      exact .inr (hchain.2.1.unsent hstep hnone)
    | nil =>
      refine .inl ⟨rfl, ?_⟩
      cases ho : s.outcome (run config keys) with
      | error f => exact ⟨f, rfl⟩
      | ok files =>
        have hword := hspeaks.whole files ho
        rw [asksOf, h, List.map_append] at hword
        exact absurd hnone (hstep.sent_of_not_isSigned (not_isSigned_of_mem_protocol hword))

/-- A new account, two domains, and a challenge that is pending at first. -/
theorem run_dialogue_twoDomains :
    twoDomains.domains ≠ [] ∧ 1 ≤ twoDomains.policy.maxPolls
      ∧ (obliging []).outcome (run twoDomains prothKeys) = .ok (files twoDomains)
      ∧ ∃ account deeds, Told twoDomains prothKeys (obliging []) account deeds
        ∧ Dialogue twoDomains prothKeys (obliging []) account deeds :=
  ⟨by decide, by decide, run_twoDomains_succeeds [], run_dialogue _ _ _ (by decide) (by decide)⟩

end Acme.Run
