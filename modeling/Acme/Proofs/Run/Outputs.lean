import Acme.Proofs.Config
import Acme.Proofs.Run.Effects

/-!
# What is found after a run

After a run that succeeds the paths it returns lead to the key and the certificates of this run. Two
of them are the same path if the primary domain is called `intermediate`: the certificate is lost
then (`run_outputs`).
-/

namespace Acme

/-! ## Names of files -/

/-- The name whose certificate lies where that of the issuer does. -/
def intermediateName : String := "intermediate"

namespace Storage

open Acme.Path

variable {primary : String}

theorem isName_append {suffix : String} (h : Config.isDomain primary = true)
    (hslash : '/' ∉ suffix.toList) (hlong : 2 < suffix.toList.length) :
    IsName (primary ++ suffix) := by
  have hlength : 2 < (primary ++ suffix).toList.length := by
    rw [String.toList_append, List.length_append]
    omega
  have hne {short : String} (hshort : short.toList.length ≤ 2) : primary ++ suffix ≠ short := by
    intro heq
    rw [heq] at hlength
    omega
  refine ⟨?_, hne (by decide), hne (by decide), hne (by decide)⟩
  rw [String.toList_append, List.mem_append, not_or]
  refine ⟨fun hmem => ?_, hslash⟩
  rw [Config.isDomain, Bool.and_eq_true, List.all_eq_true] at h
  have hchar := h.2 '/' hmem
  simp at hchar

theorem isName_key (h : Config.isDomain primary = true) : IsName (primary ++ "_key.pem") :=
  isName_append h (by decide) (by decide)

theorem isName_crt (h : Config.isDomain primary = true) : IsName (primary ++ "_crt.pem") :=
  isName_append h (by decide) (by decide)

theorem isName_intermediate : IsName "intermediate_crt.pem" :=
  ⟨by decide, by decide, by decide, by decide⟩

theorem append_ne_of_length {front front' suffix suffix' : String}
    (hlength : suffix.toList.length = suffix'.toList.length) (hne : suffix ≠ suffix') :
    front ++ suffix ≠ front' ++ suffix' := by
  intro heq
  have hlists := congrArg String.toList heq
  rw [String.toList_append, String.toList_append] at hlists
  exact hne (String.toList_inj.1 (List.append_inj_right' hlists hlength))

/-- The key of a certificate has a place of its own. -/
theorem keyPath_place_ne (storage : Storage) (h : Config.isDomain primary = true)
    (current : Location) :
    (storage.keyPath primary).place current ≠ (storage.certPath primary).place current
      ∧ (storage.keyPath primary).place current ≠ storage.intermediatePath.place current := by
  constructor
  · intro heq
    exact append_ne_of_length (by decide) (by decide)
      (place_join_inj (isName_key h) (isName_crt h) heq)
  · intro heq
    have hname := place_join_inj (isName_key h) isName_intermediate heq
    rw [show "intermediate_crt.pem" = intermediateName ++ "_crt.pem" from rfl] at hname
    exact append_ne_of_length (by decide) (by decide) hname

theorem certPath_place_ne (storage : Storage) (h : Config.isDomain primary = true)
    (hne : primary ≠ intermediateName) (current : Location) :
    (storage.certPath primary).place current ≠ storage.intermediatePath.place current := by
  intro heq
  have hname := place_join_inj (isName_crt h) isName_intermediate heq
  rw [show "intermediate_crt.pem" = intermediateName ++ "_crt.pem" from rfl] at hname
  have hlists := congrArg String.toList hname
  rw [String.toList_append, String.toList_append] at hlists
  exact hne (String.toList_inj.1 (List.append_cancel_right hlists))

/-- One name is not kept apart. -/
theorem certPath_intermediateName (storage : Storage) :
    storage.certPath intermediateName = storage.intermediatePath := rfl

end Storage

namespace Run

variable {config : Config} {keys : KeySupply} {s : Session} {account : Account} {deeds : List Deed}
  {paths : IssuedFiles}

/-! ## A run that succeeds -/

theorem Running.paths_eq {present : Bool} {g : Guards}
    (h : Running config keys present account deeds (.ok paths) g) : paths = files config := by
  generalize hr : (Except.ok paths : Except Failure IssuedFiles) = r at h
  cases h with
  | unkept => cases hr
  | unkeyed => cases hr
  | proceeding _ _ hp =>
    cases hp with
    | unopened => cases hr
    | unissued => cases hr
    | issued _ _ hd =>
      cases hd with
      | unwritten => cases hr
      | unfetched => cases hr
      | delivered =>
        cases hr
        rfl

/-- A run that succeeds has written all its files. -/
theorem Effects.whole {contents : Contents} {done : List Write} {broken : Option Write}
    (h : Effects config keys s account deeds contents done broken)
    (hok : s.outcome (run config keys) = .ok paths) :
    done = allWrites config (!s.files.exists? config.accountKey) contents ∧ broken = none := by
  have hcount := h.wrote.count
  have horder := h.wrote.order
  have hlength : (allWrites config (!s.files.exists? config.accountKey) contents).length
      = done.length := by
    rw [hcount, hok, allWrites, List.length_append, length_accountWrites, writeCount]
    cases s.files.exists? config.accountKey <;> rfl
  have hle := horder.length_le
  rw [List.length_append, hlength] at hle
  cases broken with
  | some w =>
    rw [Option.toList_some, List.length_singleton] at hle
    omega
  | none =>
    rw [Option.toList_none, List.append_nil] at horder
    exact ⟨horder.eq_of_length hlength.symm, rfl⟩

/-- What the paths of a run that succeeds lead to afterwards. -/
structure Outputs (config : Config) (keys : KeySupply) (s : Session) (account : Account)
    (deeds : List Deed) (paths : IssuedFiles) (contents : Contents) : Prop where
  returned : paths = files config
  /-- The account of the run is that of the account key. -/
  ofAccountKey : IsAccountKey config keys s.files contents.accountKey
    ∧ Account.ofPem? contents.accountKey = some account
  ofCertKey : keys.certificate config.certKeyBits = .ok contents.certKey
  issued : ∃ c front late, deeds = front ++ late
    ∧ Warrant config ⟨config.endpoints, account⟩ contents.certKey c front ∧ contents.leaf = c.pem
    ∧ Fetched c contents.issuer (turnsOf late)
  key : (s.after (run config keys)).files.read paths.keyPath = .ok (Octets.ofText contents.certKey)
  intermediate : (s.after (run config keys)).files.read paths.intermediatePath
    = .ok (Octets.ofText contents.issuer)
  /-- The certificate is found, unless its file is that of the issuer certificate. -/
  cert : (s.after (run config keys)).files.read paths.certPath
    = .ok (Octets.ofText
      (if config.domains.headD "" = intermediateName then contents.issuer else contents.leaf))
  /-- The account key is found, unless its path leads to one of the other files. -/
  accountKey : (∀ path ∈ [paths.keyPath, paths.certPath, paths.intermediatePath],
      config.accountKey.place s.files.current ≠ path.place s.files.current) →
    (s.after (run config keys)).files.read config.accountKey
      = .ok (Octets.ofText contents.accountKey)

/-- What is read after the files of a certificate have been written. -/
theorem read_of_outputWrites {fs fs' : FileSystem} {certKey leaf issuer : String}
    (hvalid : config.IsValid)
    (h : Filed fs (outputWrites config certKey leaf issuer) none fs') :
    fs'.read (files config).keyPath = .ok (Octets.ofText certKey)
      ∧ fs'.read (files config).intermediatePath = .ok (Octets.ofText issuer)
      ∧ fs'.read (files config).certPath
        = .ok (Octets.ofText (if config.domains.headD "" = intermediateName then issuer else leaf)) := by
  let storage : Storage := ⟨config.destination⟩
  have hdomain := Config.isDomain_primary hvalid
  -- The key is written first and the issuer certificate last, so only the earlier ones are at stake.
  have hkey := storage.keyPath_place_ne hdomain fs.current
  have hread : fs'.read (files config).keyPath = .ok (Octets.ofText certKey) := by
    refine (h.isWritten fun v hv => ?_).read
    rcases List.mem_cons.1 hv with rfl | hv
    · exact hkey.1
    · cases List.mem_singleton.1 hv
      exact hkey.2
  obtain ⟨fs₁, hcurrent, hcerts⟩ := h.tail
  obtain ⟨fs₂, _, hlast⟩ := hcerts.tail
  have hissuer : fs'.read (files config).intermediatePath = .ok (Octets.ofText issuer) :=
    (hlast.isWritten fun v hv => absurd hv List.not_mem_nil).read
  refine ⟨hread, hissuer, ?_⟩
  by_cases hname : config.domains.headD "" = intermediateName
  · have hpath : (files config).certPath = (files config).intermediatePath := by
      show storage.certPath (config.domains.headD "") = storage.intermediatePath
      rw [hname, storage.certPath_intermediateName]
    rw [if_pos hname, hpath]
    exact hissuer
  · rw [if_neg hname]
    refine (hcerts.isWritten fun v hv => ?_).read
    cases List.mem_singleton.1 hv
    exact storage.certPath_place_ne hdomain hname fs₁.current

/-- The account key is still there after the files of a certificate, unless one of them is written in
its place. -/
theorem read_of_accountKey {contents : Contents} {fs fs' : FileSystem} {pem : String}
    (hkey : IsAccountKey config keys fs pem)
    (hmade : (!fs.exists? config.accountKey) = true →
      keys.account config.accountKeyBits = .ok contents.accountKey)
    (h : Filed fs (allWrites config (!fs.exists? config.accountKey) contents) none fs')
    (hne : ∀ path ∈ [(files config).keyPath, (files config).certPath, (files config).intermediatePath],
      config.accountKey.place fs.current ≠ path.place fs.current) :
    fs'.read config.accountKey = .ok (Octets.ofText pem) := by
  have hplaces : ∀ w ∈ outputWrites config contents.certKey contents.leaf contents.issuer,
      config.accountKey.place fs.current ≠ w.path.place fs.current :=
    fun w hw => hne w.path (path_mem_of_outputWrites hw)
  cases hexists : fs.exists? config.accountKey with
  | true =>
    rw [hexists] at h
    rcases hkey with hstored | ⟨hnone, _⟩
    · refine read_of_storedKey hstored h fun w hw => ?_
      rw [Option.toList_none, List.append_nil] at hw
      exact hplaces w hw
    · rw [hexists] at hnone
      cases hnone
  | false =>
    rw [hexists] at h
    have hpem : keys.account config.accountKeyBits = .ok pem := by
      rcases hkey with hstored | ⟨_, hnew⟩
      · rw [storedKey, hexists] at hstored
        cases hstored
      · exact hnew
    have hsame : contents.accountKey = pem := by
      have hcontents := hmade (by rw [hexists]; rfl)
      rw [hpem] at hcontents
      exact (Except.ok.inj hcontents).symm
    have hwritten : (accountWrite config contents.accountKey).IsWritten fs' := by
      refine Filed.isWritten h fun w hw => ?_
      rw [Option.toList_none, List.append_nil] at hw
      exact hplaces w hw
    rw [← hsame]
    exact hwritten.read

/-- After every run that succeeds for a valid configuration, the key and the issuer certificate are
found where the run says, and so is the certificate, unless the primary domain is called
`intermediate`. -/
theorem run_outputs (config : Config) (keys : KeySupply) (s : Session) :
    ∃ account deeds, Told config keys s account deeds ∧ ∀ paths, config.IsValid →
      s.outcome (run config keys) = .ok paths →
        ∃ contents, Outputs config keys s account deeds paths contents := by
  obtain ⟨account, deeds, htold, hbegun⟩ := run_begun config keys s
  refine ⟨account, deeds, htold, fun paths hvalid hok => ?_⟩
  obtain ⟨contents, done, broken, heffects⟩ := htold.effects
  obtain ⟨rfl, rfl⟩ := heffects.whole hok
  have hpaths : paths = files config := by
    have hrunning := htold.running
    rw [hok] at hrunning
    exact hrunning.paths_eq
  have hlength : (allWrites config (!s.files.exists? config.accountKey) contents
      ++ (none : Option Write).toList).length = (!s.files.exists? config.accountKey).toNat + 3 := by
    rw [Option.toList_none, List.append_nil, allWrites, List.length_append, length_accountWrites]
    rfl
  have hsourced := heffects.sourced
  rw [hlength] at hsourced
  obtain ⟨hcertKey, c, front, late, hdeeds, hwarrant, hleaf, hfetched⟩ :=
    hsourced.output (by omega)
  have hfetched := hfetched (by omega)
  have hasked : turnsOf deeds ≠ [] := by
    obtain ⟨t, ht, _⟩ := hfetched
    rw [hdeeds, turnsOf_append]
    exact List.append_ne_nil_of_right_ne_nil _ (List.ne_nil_of_mem ht)
  obtain ⟨pem, hkey, hofPem⟩ := hbegun.account.resolve_left hasked
  have hfiled := heffects.wrote.filed
  obtain ⟨fs₁, houtputs⟩ : ∃ fs₁, Filed fs₁
      (outputWrites config contents.certKey contents.leaf contents.issuer) none
        (s.after (run config keys)).files := by
    cases hexists : s.files.exists? config.accountKey with
    | true =>
      rw [hexists] at hfiled
      exact ⟨_, hfiled⟩
    | false =>
      rw [hexists] at hfiled
      obtain ⟨fs₁, _, hrest⟩ := hfiled.tail
      exact ⟨fs₁, hrest⟩
  obtain ⟨hreadKey, hreadIssuer, hreadCert⟩ := read_of_outputWrites hvalid houtputs
  subst hpaths
  refine ⟨{ contents with accountKey := pem }, rfl, ⟨hkey, hofPem⟩, hcertKey,
    ⟨c, front, late, hdeeds, hwarrant, hleaf, hfetched⟩, hreadKey, hreadIssuer, hreadCert, ?_⟩
  exact read_of_accountKey hkey (fun hnew => hsourced.accountKey hnew (by omega)) hfiled

end Run

end Acme
