import Acme.Proofs.Run.Failures
import Acme.Proofs.Run.Provenance
import Acme.Proofs.Storage

/-!
# What a run does to the files

A run writes four files at most, in a fixed order, and its outcome tells how many of them
(`run_effects`). It changes nothing else.
-/

namespace Acme.Run

/-! ## The files of a run -/

/-- The contents of the files that a run writes. -/
structure Contents where
  accountKey : String
  certKey : String
  leaf : String
  issuer : String
  deriving DecidableEq, Repr

def accountWrite (config : Config) (pem : String) : Write :=
  ⟨config.accountKey, pem, true⟩

def keyWrite (config : Config) (certKey : String) : Write :=
  ⟨(files config).keyPath, certKey, true⟩

def leafWrite (config : Config) (pem : String) : Write :=
  ⟨(files config).certPath, pem, false⟩

def issuerWrite (config : Config) (pem : String) : Write :=
  ⟨(files config).intermediatePath, pem, false⟩

/-- The account key is written only if it is new. -/
def accountWrites (config : Config) (isNew : Bool) (pem : String) : List Write :=
  if isNew then [accountWrite config pem] else []

def outputWrites (config : Config) (certKey leaf issuer : String) : List Write :=
  [keyWrite config certKey, leafWrite config leaf, issuerWrite config issuer]

theorem path_mem_of_outputWrites {config : Config} {certKey leaf issuer : String} {w : Write}
    (h : w ∈ outputWrites config certKey leaf issuer) :
    w.path ∈ [(files config).keyPath, (files config).certPath, (files config).intermediatePath] :=
  List.mem_map_of_mem (f := Write.path) h

/-- All that a run may write, in order. -/
def allWrites (config : Config) (isNew : Bool) (contents : Contents) : List Write :=
  accountWrites config isNew contents.accountKey
    ++ outputWrites config contents.certKey contents.leaf contents.issuer

/-! ## What an outcome tells -/

/-- How many files of a certificate have been written. -/
def outputCount : Except Failure IssuedFiles → Nat
  | .ok _ => 3
  | .error (.intermediateWrite _ _) => 2
  | .error (.intermediateFetch _ _) => 2
  | .error (.certificateWrite _ _) => 1
  | .error _ => 0

/-- A new account key has not been written. -/
def isUnsaved (phase : Phase) : Except Failure IssuedFiles → Bool
  | .error (.accountKeyWrite _ _) => true
  | .error .missingEmail => phase == .init
  | _ => false

/-- How many files have been written. -/
def writeCount (isNew : Bool) (phase : Phase) (r : Except Failure IssuedFiles) : Nat :=
  (if isNew && !isUnsaved phase r then 1 else 0) + outputCount r

/-- A file could not be written. -/
def isUnwritten : Except Failure IssuedFiles → Bool
  | .error (.accountKeyWrite _ _) => true
  | .error (.certificateKeyWrite _ _) => true
  | .error (.certificateWrite _ _) => true
  | .error (.intermediateWrite _ _) => true
  | _ => false

/-- The run ended before anything was asked of the CA. -/
def isOffline (phase : Phase) : Except Failure IssuedFiles → Bool
  | .error (.accountKeyInvalid _ _) => true
  | .error (.accountKeyWrite _ _) => true
  | .error (.certificateKey _) => true
  | .error .missingEmail => phase == .init
  | _ => false

/-! ## Calls -/

variable {config : Config} {client : Client} {keys : KeySupply} {fs fs' : FileSystem}
  {ds : List Deed} {w : Write}

theorem Changing.calling {steps : List FileStep} {fault : Option SystemFault}
    (h : Changing steps ds fault) (hf : Filing fs (callsOf ds) fs') :
    Write.Calling fs steps fault fs' := by
  induction h generalizing fs with
  | nil =>
    cases hf with
    | nil => exact .nil
  | stopped =>
    cases hf with
    | cons hstep hrest =>
      cases hrest with
      | nil => exact .stopped hstep
  | cons _ ih =>
    cases hf with
    | cons hstep hrest => exact .cons hstep (ih hrest)

/-- A number of files are written, of those planned and in their order; one more may be broken
off, if the result is a failure to write it. -/
structure Wrote (planned : List Write) (count : Nat) (r : Except Failure IssuedFiles)
    (fs fs' : FileSystem) (done : List Write) (broken : Option Write) : Prop where
  filed : Filed fs done broken fs'
  order : done ++ broken.toList <+: planned
  count : done.length = count
  unwritten : broken.isSome = true → isUnwritten r = true

namespace Wrote

variable {planned first : List Write} {count : Nat} {r : Except Failure IssuedFiles}
  {fs'' : FileSystem} {done : List Write} {broken : Option Write}

theorem nothing (planned : List Write) (r : Except Failure IssuedFiles) (fs : FileSystem) :
    Wrote planned 0 r fs fs [] none :=
  ⟨.nil, List.nil_prefix, rfl, nofun⟩

theorem whole (h : Filed fs planned none fs') (rest : List Write) (r : Except Failure IssuedFiles) :
    Wrote (planned ++ rest) planned.length r fs fs' planned none := by
  refine ⟨h, ?_, rfl, nofun⟩
  rw [Option.toList_none, List.append_nil]
  exact List.prefix_append _ _

theorem brokenOff {fault : SystemFault} (h : Changing w.steps ds (some fault))
    (hf : Filing fs (callsOf ds) fs') (rest : List Write) (hr : isUnwritten r = true) :
    Wrote (w :: rest) 0 r fs fs' [] (some w) :=
  ⟨.stopped (h.calling hf), List.prefix_append [w] rest, rfl, fun _ => hr⟩

theorem prepend (h : Filed fs first none fs') (h' : Wrote planned count r fs' fs'' done broken) :
    Wrote (first ++ planned) (first.length + count) r fs fs'' (first ++ done) broken := by
  refine ⟨h.append h'.filed, ?_, ?_, h'.unwritten⟩
  · rw [List.append_assoc]
    exact (List.prefix_append_right_inj _).2 h'.order
  · rw [List.length_append, h'.count]

end Wrote

theorem Changing.filed (h : Changing w.steps ds none) (hf : Filing fs (callsOf ds) fs') :
    Filed fs [w] none fs' :=
  .written (h.calling hf)

/-! ## The files of a certificate -/

variable {certKey : String} {c : IssuedCertificate}

theorem Writing.filed (h : Writing config certKey c ds (.ok ()))
    (hf : Filing fs (callsOf ds) fs') :
    Filed fs [keyWrite config certKey, leafWrite config c.pem] none fs' := by
  cases h with
  | written hk hc =>
    rw [callsOf_append] at hf
    obtain ⟨fs₁, hf₁, hf₂⟩ := hf.split
    have hkey : Changing (keyWrite config certKey).steps _ none := hk
    have hleaf : Changing (leafWrite config c.pem).steps _ none := hc
    exact (hkey.filed hf₁).append (hleaf.filed hf₂)

theorem Writing.wrote {f : Failure} (h : Writing config certKey c ds (.error f))
    (hf : Filing fs (callsOf ds) fs') (issuer : String) :
    ∃ done broken, Wrote (outputWrites config certKey c.pem issuer) (outputCount (.error f))
      (.error f) fs fs' done broken
      ∧ (done ++ broken.toList).length ≤ 2 ∧ ∀ phase, isOffline phase (.error f) = false := by
  cases h with
  | keyless hk =>
    have hkey : Changing (keyWrite config certKey).steps _ _ := hk
    exact ⟨_, _, .brokenOff hkey hf _ rfl, by simp, fun _ => rfl⟩
  | leafless hk hc =>
    rw [callsOf_append] at hf
    obtain ⟨fs₁, hf₁, hf₂⟩ := hf.split
    have hkey : Changing (keyWrite config certKey).steps _ none := hk
    have hleaf : Changing (leafWrite config c.pem).steps _ _ := hc
    exact ⟨_, _, .prepend (hkey.filed hf₁) (.brokenOff hleaf hf₂ _ rfl), by simp, fun _ => rfl⟩

/-- The issuer certificate was fetched in a turn. -/
def Fetched (c : IssuedCertificate) (issuer : String) (turns : List Turn) : Prop :=
  ∃ t ∈ turns, t.ask = .plain c.issuerUrl ∧ t.intermediate c.issuerUrl = .ok issuer

/-- A turn without a signature does not fail for want of a nonce. -/
def IsPlain (t : Turn) : Prop :=
  t.ask.isSigned = false → ∀ reason, t.result ≠ .error (.noNonce reason)

theorem isPlain_of_append {ds es : List Deed} (h : ∀ t ∈ turnsOf (ds ++ es), IsPlain t) :
    ∀ t ∈ turnsOf es, IsPlain t := by
  intro t ht
  refine h t ?_
  rw [turnsOf_append]
  exact List.mem_append_right _ ht

theorem isPlain_of_conversation {held last : Option String} {turns : List Turn}
    (h : Conversation client held turns last) : ∀ t ∈ turns, IsPlain t := by
  intro t ht hsigned reason hr
  obtain ⟨before, after, hturns⟩ := List.append_of_mem ht
  rw [hturns] at h
  obtain ⟨_, _, _, hstep⟩ := h.step_at
  cases hstep with
  | @direct _ _ x _ =>
    obtain ⟨_, _, hfault⟩ := Exchange.result_eq_error_iff.1 hr
    cases hfault
  | _ => cases hsigned

theorem fetch_failure {t : Turn} {url : String} {f : Failure} (ht : t.ask = .plain url)
    (hplain : IsPlain t) (hf : t.intermediate url = .error f) :
    ∃ reason, f = .intermediateFetch url reason := by
  rw [Turn.intermediate] at hf
  split at hf
  · rename_i e he
    cases e with
    | noNonce reason => exact absurd he (hplain (by rw [ht]; rfl) reason)
    | _ =>
      cases hf
      exact ⟨_, rfl⟩
  · rename_i reply _
    cases ho : intermediateOfReply reply with
    | ok pem =>
      rw [ho] at hf
      cases hf
    | error reason =>
      rw [ho] at hf
      cases hf
      exact ⟨reason, rfl⟩

theorem Delivering.wrote {r : Except Failure IssuedFiles}
    (h : Delivering config certKey c ds r) (hf : Filing fs (callsOf ds) fs')
    (hplain : ∀ t ∈ turnsOf ds, IsPlain t) :
    ∃ issuer done broken, Wrote (outputWrites config certKey c.pem issuer) (outputCount r) r
        fs fs' done broken
      ∧ (2 < (done ++ broken.toList).length → Fetched c issuer (turnsOf ds))
      ∧ ∀ phase, isOffline phase r = false := by
  -- The issuer certificate is not known until it is fetched; before, any text stands for it.
  cases h with
  | unwritten hw =>
    obtain ⟨done, broken, hwrote, hle, honline⟩ := hw.wrote hf ""
    exact ⟨"", done, broken, hwrote, fun hlt => absurd hle (Nat.not_le_of_gt hlt), honline⟩
  | @unfetched ds es f hw hfetch =>
    rw [callsOf_append] at hf
    obtain ⟨fs₁, hf₁, hf₂⟩ := hf.split
    have hfiled := hw.filed hf₁
    generalize hr : (Except.error f : Except Failure Unit) = r at hfetch
    cases hfetch with
    | @unfetched t f' ht hi =>
      cases hr
      have hmem : t ∈ turnsOf (entering .intermediateFetch :: [.asked t]) := List.mem_singleton_self t
      obtain ⟨reason, rfl⟩ := fetch_failure ht (isPlain_of_append hplain t hmem) hi
      cases hf₂ with
      | nil =>
        exact ⟨"", _, none, .whole hfiled [issuerWrite config ""] _, fun hlt => (by simp at hlt),
          fun _ => rfl⟩
    | @unwritten t pem es fault ht hp hi =>
      cases hr
      have hissuer : Changing (issuerWrite config pem).steps es (some fault) := hi
      refine ⟨pem, _, _, .prepend hfiled (.brokenOff hissuer hf₂ [] rfl),
        fun _ => ⟨t, ?_, ht, hp⟩, fun _ => rfl⟩
      rw [turnsOf_append]
      exact List.mem_append_right _ List.mem_cons_self
    | written => cases hr
  | @delivered ds es hw hfetch =>
    rw [callsOf_append] at hf
    obtain ⟨fs₁, hf₁, hf₂⟩ := hf.split
    have hfiled := hw.filed hf₁
    generalize hr : (Except.ok () : Except Failure Unit) = r at hfetch
    cases hfetch with
    | unfetched => cases hr
    | unwritten => cases hr
    | @written t pem es ht hp hi =>
      have hissuer : Changing (issuerWrite config pem).steps es none := hi
      have hcalls : callsOf (entering .intermediateFetch :: ((.asked t :: es) ++ [entering .done]))
          = callsOf es := by
        show callsOf (es ++ [entering .done]) = _
        rw [callsOf_append]
        exact List.append_nil _
      rw [hcalls] at hf₂
      refine ⟨pem, _, _, .whole (hfiled.append (hissuer.filed hf₂)) [] _,
        fun _ => ⟨t, ?_, ht, hp⟩, fun _ => rfl⟩
      rw [turnsOf_append]
      exact List.mem_append_right _ List.mem_cons_self

theorem isUnsaved_of_isOffline {phase : Phase} {r : Except Failure IssuedFiles}
    (h : isOffline phase r = false) : isUnsaved phase r = false := by
  rcases r with f | files
  · cases f <;> first | rfl | exact h
  · rfl

theorem isOffline_of_isOnline {phase : Phase} {f : Failure} (hp : phase ≠ .init)
    (h : isOnline f = true) : isOffline phase (.error f) = false ∧ outputCount (.error f) = 0 := by
  cases f with
  | missingEmail => exact ⟨beq_false_of_ne hp, rfl⟩
  | _ => first | exact ⟨rfl, rfl⟩ | cases h

/-! ## The account key -/

theorem Keeping.filed {account : Account} {present isNew : Bool}
    (h : Keeping config keys present ds (.ok (account, isNew)))
    (hf : Filing fs (callsOf ds) fs') :
    ∃ pem, Filed fs (accountWrites config (!present) pem) none fs'
      ∧ ((!present) = true → keys.account config.accountKeyBits = .ok pem) := by
  cases h with
  | loaded hp =>
    subst hp
    cases hf with
    | nil => exact ⟨"", .nil, nofun⟩
  | @saved pem _ _ hp hk hs ha =>
    subst hp
    have haccount : Changing (accountWrite config pem).steps ds none := hs
    exact ⟨pem, haccount.filed hf, fun _ => hk⟩

theorem Keeping.wrote {f : Failure} {present : Bool} (h : Keeping config keys present ds (.error f))
    (hf : Filing fs (callsOf ds) fs') :
    ∃ pem done broken, Wrote (accountWrites config (!present) pem)
        (writeCount (!present) .init (.error f)) (.error f) fs fs' done broken
      ∧ isOffline .init (.error f) = true
      ∧ ((!present) = true → 0 < (done ++ broken.toList).length →
        keys.account config.accountKeyBits = .ok pem) := by
  cases h with
  | unreadable hp =>
    subst hp
    cases hf with
    | nil => exact ⟨"", [], none, .nothing _ _ _, rfl, nofun⟩
  | homeless hp hc =>
    subst hp
    cases hf with
    | nil => exact ⟨"", [], none, .nothing _ _ _, rfl, fun _ hlt => absurd hlt (Nat.lt_irrefl 0)⟩
  | unmade hp hk =>
    subst hp
    cases hf with
    | nil => exact ⟨"", [], none, .nothing _ _ _, rfl, fun _ hlt => absurd hlt (Nat.lt_irrefl 0)⟩
  | @unsaved pem _ _ hp hk hs =>
    subst hp
    have haccount : Changing (accountWrite config pem).steps ds (some _) := hs
    exact ⟨pem, _, _, .brokenOff haccount hf [] rfl, rfl, fun _ _ => hk⟩
  | @unusable pem _ hp hk hs ha =>
    subst hp
    have haccount : Changing (accountWrite config pem).steps ds none := hs
    exact ⟨pem, _, _, .whole (haccount.filed hf) [] _, rfl, fun _ _ => hk⟩

/-! ## The run -/

/-- The contents come from the keys of the run and from the CA, as far as so many files are
written. -/
structure Sourced (config : Config) (keys : KeySupply) (isNew : Bool) (account : Account)
    (deeds : List Deed) (contents : Contents) (count : Nat) : Prop where
  accountKey : isNew = true → 0 < count →
    keys.account config.accountKeyBits = .ok contents.accountKey
  output : isNew.toNat < count → keys.certificate config.certKeyBits = .ok contents.certKey
    ∧ ∃ c front late, deeds = front ++ late
      ∧ Warrant config ⟨config.endpoints, account⟩ contents.certKey c front ∧ contents.leaf = c.pem
      ∧ (isNew.toNat + 2 < count → Fetched c contents.issuer (turnsOf late))

theorem Proceeding.starts {isNew : Bool} {r : Except Failure IssuedFiles} {g g' : Guards}
    (h : Proceeding config client isNew certKey g ds r g') : ∃ es, ds = entering .nonce :: es := by
  have hopening {b b' : Bool} {ds : List Deed} {r : Except Failure Unit}
      (h : Opening config client isNew b ds r b') : ∃ es, ds = entering .nonce :: es := by
    cases h <;> exact ⟨_, rfl⟩
  cases h with
  | unopened ho => exact hopening ho
  | unissued ho _ =>
    obtain ⟨es, rfl⟩ := hopening ho
    exact ⟨_, rfl⟩
  | issued ho _ _ =>
    obtain ⟨es, rfl⟩ := hopening ho
    exact ⟨_, rfl⟩

theorem Proceeding.phase_ne {isNew : Bool} {r : Except Failure IssuedFiles} {g g' : Guards}
    (h : Proceeding config client isNew certKey g ds r g') (phase : Phase) :
    (phasesOf ds).getLast?.getD phase ≠ .init := by
  obtain ⟨es, rfl⟩ := h.starts
  have hinit := h.heeds.init_notMem
  cases hlast : (phasesOf (entering .nonce :: es)).getLast? with
  | none =>
    rw [List.getLast?_eq_none_iff] at hlast
    cases hlast
  | some last =>
    rintro rfl
    exact hinit (List.mem_of_getLast? hlast)

/-- A run with an account has left the first phase. -/
theorem Proceeding.not_init {isNew present : Bool} {r : Except Failure IssuedFiles} {g g' : Guards}
    {k : Except Failure (Account × Bool)} {es : List Deed}
    (h : Proceeding config client isNew certKey g es r g')
    (hk : Keeping config keys present ds k) (phase : Phase) :
    (phasesOf (entering .init :: (ds ++ es))).getLast?.getD phase ≠ .init := by
  rw [phasesOf_entered, phasesOf_append, hk.early.1, List.nil_append]
  obtain ⟨es', rfl⟩ := h.starts
  rw [phasesOf_entered, List.getLast?_cons_cons]
  exact h.phase_ne phase

/-- From the first nonce on, only files of the certificate are written, and only once it has been
issued. -/
theorem Proceeding.wrote {isNew : Bool} {r : Except Failure IssuedFiles} {g g' : Guards}
    (h : Proceeding config client isNew certKey g ds r g') (hf : Filing fs (callsOf ds) fs')
    (hplain : ∀ t ∈ turnsOf ds, IsPlain t) {phase : Phase} (hphase : phase ≠ .init) :
    ∃ leaf issuer done broken,
      Wrote (outputWrites config certKey leaf issuer) (outputCount r) r fs fs' done broken
        ∧ isOffline phase r = false
        ∧ (0 < (done ++ broken.toList).length → ∃ c front late, ds = front ++ late
          ∧ Warrant config client certKey c front ∧ leaf = c.pem
          ∧ (2 < (done ++ broken.toList).length → Fetched c issuer (turnsOf late))) := by
  -- What fails before the certificate is issued fails in the conversation, and makes no calls.
  have honline {f : Failure} (hcalls : callsOf ds = []) (hf' : isOnline f = true) :
      Wrote (outputWrites config certKey "" "") (outputCount (.error f)) (.error f) fs fs' [] none
        ∧ isOffline phase (.error f) = false := by
    obtain ⟨hoffline, houtputs⟩ := isOffline_of_isOnline hphase hf'
    rw [hcalls] at hf
    cases hf with
    | nil =>
      rw [houtputs]
      exact ⟨.nothing _ _ _, hoffline⟩
  cases h with
  | unopened ho =>
    obtain ⟨hwrote, hoffline⟩ := honline ho.early.1 (ho.converses_of_error.online _ rfl)
    exact ⟨"", "", [], none, hwrote, hoffline, fun hlt => absurd hlt (Nat.lt_irrefl 0)⟩
  | @unissued _ _ os is _ ho hi =>
    have hcalls : callsOf (os ++ is) = [] := by
      rw [callsOf_append, ho.early.1, hi.early.1]
      rfl
    obtain ⟨hwrote, hoffline⟩ := honline hcalls (hi.converses.online _ rfl)
    exact ⟨"", "", [], none, hwrote, hoffline, fun hlt => absurd hlt (Nat.lt_irrefl 0)⟩
  | @issued _ _ os is late c _ ho hi hd =>
    have hcalls : callsOf (os ++ is ++ late) = callsOf late := by
      rw [callsOf_append, callsOf_append, ho.early.1, hi.early.1]
      rfl
    rw [hcalls] at hf
    obtain ⟨issuer, done, broken, hwrote, hfetched, hoffline⟩ :=
      hd.wrote hf (isPlain_of_append hplain)
    exact ⟨c.pem, issuer, done, broken, hwrote, hoffline phase,
      fun _ => ⟨c, _, late, rfl, hi.warrant.prepend os, rfl, hfetched⟩⟩

/-- Nothing is written of a certificate yet. -/
theorem Sourced.of_le {isNew : Bool} {account : Account} {contents : Contents} {count : Nat}
    (ha : isNew = true → 0 < count → keys.account config.accountKeyBits = .ok contents.accountKey)
    (hle : count ≤ isNew.toNat) : Sourced config keys isNew account ds contents count :=
  ⟨ha, fun hlt => absurd hle (Nat.not_le_of_gt hlt)⟩

theorem length_accountWrites (config : Config) (isNew : Bool) (pem : String) :
    (accountWrites config isNew pem).length = isNew.toNat := by
  cases isNew <;> rfl

theorem Running.wrote {present : Bool} {account : Account} {r : Except Failure IssuedFiles}
    {g : Guards} (h : Running config keys present account ds r g)
    (hf : Filing fs (callsOf ds) fs') (hplain : ∀ t ∈ turnsOf ds, IsPlain t) {phase : Phase}
    (hphase : phase = (phasesOf ds).getLast?.getD .init) :
    ∃ contents done broken,
      Wrote (allWrites config (!present) contents) (writeCount (!present) phase r) r fs fs' done broken
        ∧ (isOffline phase r = true → turnsOf ds = [])
        ∧ Sourced config keys (!present) account ds contents (done ++ broken.toList).length := by
  -- A run that keeps its account key and is not offline has written it.
  have hcount {r : Except Failure IssuedFiles} (hr : isUnsaved phase r = false) :
      writeCount (!present) phase r = (!present).toNat + outputCount r := by
    rw [writeCount, hr]
    cases present <;> rfl
  cases h with
  | @unkept ds f hk =>
    obtain ⟨pem, done, broken, hwrote, hoffline, hsource⟩ := hk.wrote hf
    have hinit : phase = .init := by
      rw [hphase, phasesOf_entered, hk.early.1]
      rfl
    subst hinit
    have hle : (done ++ broken.toList).length ≤ (!present).toNat := by
      have hle := hwrote.order.length_le
      rwa [length_accountWrites] at hle
    refine ⟨⟨pem, "", "", ""⟩, done, broken, ?_, fun _ => hk.turns, .of_le hsource hle⟩
    exact ⟨hwrote.filed, hwrote.order.trans (List.prefix_append _ _), hwrote.count,
      hwrote.unwritten⟩
  | @unkeyed ds isNew e hk hc =>
    obtain ⟨pem, hfiled, hsource⟩ := hk.filed hf
    have hwrote := Wrote.whole hfiled (outputWrites config "" "" "") (.error (.certificateKey e.message))
    refine ⟨⟨pem, "", "", ""⟩, accountWrites config (!present) pem, none, ?_, fun _ => hk.turns,
      .of_le (fun hnew _ => hsource hnew) ?_⟩
    · rw [hcount rfl, ← length_accountWrites config (!present) pem]
      exact hwrote
    · rw [Option.toList_none, List.append_nil, length_accountWrites]
  | @proceeding ds es isNew certKey r g hk hc hp =>
    have hcalls : callsOf (entering .init :: (ds ++ es)) = callsOf ds ++ callsOf es :=
      callsOf_append ds es
    rw [hcalls] at hf
    obtain ⟨fs₁, hf₁, hf₂⟩ := hf.split
    obtain ⟨pem, hfiled, hsource⟩ := hk.filed hf₁
    -- The phase tells a missing email at the start from one at a registration.
    have hstarted : phase ≠ .init := by
      rw [hphase]
      exact hp.not_init hk .init
    have hplain' : ∀ t ∈ turnsOf (ds ++ es), IsPlain t := hplain
    obtain ⟨leaf, issuer, done, broken, hwrote, hoffline, hgranted⟩ :=
      hp.wrote hf₂ (isPlain_of_append hplain') hstarted
    have hlength : (accountWrites config (!present) pem ++ done ++ broken.toList).length
        = (!present).toNat + (done ++ broken.toList).length := by
      rw [List.append_assoc, List.length_append, length_accountWrites]
    refine ⟨⟨pem, certKey, leaf, issuer⟩, accountWrites config (!present) pem ++ done, broken, ?_,
      fun h => ?_, fun hnew _ => hsource hnew, fun hlt => ⟨hc, ?_⟩⟩
    · rw [hcount (isUnsaved_of_isOffline hoffline), ← length_accountWrites config (!present) pem]
      exact .prepend hfiled hwrote
    · rw [hoffline] at h
      cases h
    · rw [hlength] at hlt ⊢
      obtain ⟨c, front, late, rfl, hwarrant, hleaf, hfetched⟩ :=
        hgranted (Nat.lt_of_add_lt_add_left hlt)
      refine ⟨c, entering .init :: ds ++ front, late, ?_, hwarrant.prepend _, hleaf,
        fun hlt => hfetched (Nat.lt_of_add_lt_add_left hlt)⟩
      exact (List.append_assoc (entering .init :: ds) front late).symm

/-- What a run does to the files: some writes are done and one may be broken off, as the outcome
tells, and this is all. -/
structure Effects (config : Config) (keys : KeySupply) (s : Session) (account : Account)
    (deeds : List Deed) (contents : Contents) (done : List Write) (broken : Option Write) :
    Prop where
  /-- The account key is among the writes only if nothing is at its path. -/
  wrote : Wrote (allWrites config (!s.files.exists? config.accountKey) contents)
    (writeCount (!s.files.exists? config.accountKey) (s.after (run config keys)).phase
      (s.outcome (run config keys)))
    (s.outcome (run config keys)) s.files (s.after (run config keys)).files done broken
  /-- A location is left as it is, if no file was written in its place and no directory was made
  there on the way to one. -/
  intact : ∀ location, (s.after (run config keys)).files.lookup location = s.files.lookup location
    ∨ ∃ w ∈ done ++ broken.toList, w.IsMade s.files (s.after (run config keys)).files location
      ∨ location = w.path.place s.files.current ∧ s.files.lookup location ≠ some .directory
  /-- Where the outcome tells of no write, the files are left as they are. -/
  untouched : done = [] → isUnwritten (s.outcome (run config keys)) = false →
    (s.after (run config keys)).files = s.files
  /-- Some outcomes are reached before anything is asked of the CA. -/
  offline : isOffline (s.after (run config keys)).phase (s.outcome (run config keys)) = true →
    (s.after (run config keys)).exchanges = s.exchanges
  sourced : Sourced config keys (!s.files.exists? config.accountKey) account deeds contents
    (done ++ broken.toList).length

theorem Told.isPlain {s : Session} {account : Account} (h : Told config keys s account ds) :
    ∀ t ∈ turnsOf ds, IsPlain t :=
  isPlain_of_conversation h.happened.conversation

theorem Told.effects {s : Session} {account : Account} (h : Told config keys s account ds) :
    ∃ contents done broken, Effects config keys s account ds contents done broken := by
  have hphase : (s.after (run config keys)).phase = (phasesOf ds).getLast?.getD .init := by
    obtain ⟨es, rfl, _⟩ := h.running.heeds
    rw [h.happened.phase, phasesOf_entered, List.getLast?_cons]
    rfl
  obtain ⟨contents, done, broken, hwrote, hoffline, hsourced⟩ :=
    h.running.wrote h.happened.files h.isPlain hphase
  refine ⟨contents, done, broken, ?_⟩
  constructor
  case wrote => exact hwrote
  case intact => exact hwrote.filed.lookup
  case sourced => exact hsourced
  case untouched =>
    rintro rfl hwritten
    have hfiled := hwrote.filed
    cases hb : broken with
    | none =>
      rw [hb] at hfiled
      exact hfiled.eq_of_nil
    | some w =>
      rw [hwrote.unwritten (by rw [hb]; rfl)] at hwritten
      cases hwritten
  case offline =>
    intro hoff
    rw [h.happened.exchanges, hoffline hoff]
    exact List.append_nil _

/-- The outcome of every run tells how far it has got with its files, and nothing else is changed. -/
theorem run_effects (config : Config) (keys : KeySupply) (s : Session) :
    ∃ account deeds contents done broken, Told config keys s account deeds
      ∧ Effects config keys s account deeds contents done broken := by
  obtain ⟨account, deeds, htold⟩ := run_follows config keys s
  obtain ⟨contents, done, broken, heffects⟩ := htold.effects
  exact ⟨account, deeds, contents, done, broken, htold, heffects⟩

end Acme.Run
