import Acme.Proofs.Run.Outputs

/-!
# Files stay in the destination

The files of a certificate are named after the primary domain, whose name may be `..` or start with
dots. It has no slash, and the names are longer than `..`; so they are names of files right in the
destination, and apart from the account key a run changes nothing else (`run_stays`).
-/

namespace Acme

namespace Path

/-- The path is that of a file right in a directory. -/
structure LiesIn (path directory : Path) (name : String) : Prop where
  isName : IsName name
  text : ∃ slash, (slash = "" ∨ slash = "/") ∧ path.text = directory.text ++ slash ++ name
  components : path.components = directory.components ++ [name]
  isAbsolute : path.isAbsolute = directory.isAbsolute
  parent : path.parent? = some directory.components
  place : ∀ current, path.place current = directory.place current ++ [name]

variable {base : Path} {name : String}

theorem text_join (h : IsName name) :
    ∃ slash, (slash = "" ∨ slash = "/") ∧ (base.join name).text = base.text ++ slash ++ name := by
  rw [join, isAbsolute_of_isName h, if_neg Bool.false_ne_true]
  split
  · exact ⟨"", .inl rfl, by rw [String.append_empty]⟩
  · exact ⟨"/", .inr rfl, rfl⟩

theorem parent?_join (h : IsName name) : (base.join name).parent? = some base.components := by
  rw [parent?, components_join h, if_neg (by simp), List.dropLast_concat]

theorem liesIn_join (base : Path) (h : IsName name) : (base.join name).LiesIn base name where
  isName := h
  text := text_join h
  components := components_join h
  isAbsolute := isAbsolute_join h
  parent := parent?_join h
  place := place_join h

theorem LiesIn.isOnWay {path directory : Path} (h : path.LiesIn directory name)
    {current location : Location} (hway : path.IsOnWay current location) :
    ∃ names, names <+: directory.components
      ∧ location = follow (directory.start current) names := by
  obtain ⟨names, hprefix, rfl⟩ := hway
  rw [h.components, List.dropLast_concat] at hprefix
  exact ⟨names, hprefix, by rw [start, start, h.isAbsolute]⟩

end Path

namespace Run

variable {config : Config} {keys : KeySupply} {s : Session}

/-- The names of the files of a certificate. -/
def outputNames (primary : String) : List String :=
  [primary ++ "_key.pem", primary ++ "_crt.pem", "intermediate_crt.pem"]

/-- A directory is made that was missing. -/
def IsNewDirectory (fs fs' : FileSystem) (location : Location) : Prop :=
  fs.lookup location = none ∧ fs'.lookup location = some .directory

/-- What a run changes stays in the destination, the account key aside. -/
structure Stays (config : Config) (keys : KeySupply) (s : Session) : Prop where
  primary : config.domains.headD "" ∈ config.domains
  key : ∀ domain ∈ config.domains, ((Storage.mk config.destination).keyPath domain).LiesIn
    config.destination (domain ++ "_key.pem")
  cert : ∀ domain ∈ config.domains, ((Storage.mk config.destination).certPath domain).LiesIn
    config.destination (domain ++ "_crt.pem")
  intermediate : (Storage.mk config.destination).intermediatePath.LiesIn config.destination
    "intermediate_crt.pem"
  returned : ∀ paths, s.outcome (run config keys) = .ok paths → paths = files config
  /-- Whatever is changed is the account key, a file of the certificate right in the destination, or
  a directory that was missing on the way to these. -/
  changed : ∀ location,
    (s.after (run config keys)).files.lookup location ≠ s.files.lookup location →
      location = config.accountKey.place s.files.current
      ∨ (∃ name ∈ outputNames (config.domains.headD ""),
        location = config.destination.place s.files.current ++ [name])
      ∨ IsNewDirectory s.files (s.after (run config keys)).files location
        ∧ (config.accountKey.IsOnWay s.files.current location
          ∨ ∃ names, names <+: config.destination.components
            ∧ location = follow (config.destination.start s.files.current) names)

theorem liesIn_of_mem (h : config.IsValid) {certKey leaf issuer : String} {w : Write}
    (hw : w ∈ outputWrites config certKey leaf issuer) :
    ∃ name ∈ outputNames (config.domains.headD ""), w.path.LiesIn config.destination name := by
  have hdomain := Config.isDomain_primary h
  rcases List.mem_cons.1 hw with rfl | hw
  · exact ⟨_, List.mem_cons_self, Path.liesIn_join _ (Storage.isName_key hdomain)⟩
  · rcases List.mem_cons.1 hw with rfl | hw
    · exact ⟨_, List.mem_cons_of_mem _ List.mem_cons_self,
        Path.liesIn_join _ (Storage.isName_crt hdomain)⟩
    · cases List.mem_singleton.1 hw
      exact ⟨_, List.mem_cons_of_mem _ (List.mem_cons_of_mem _ List.mem_cons_self),
        Path.liesIn_join _ Storage.isName_intermediate⟩

theorem path_of_mem_accountWrites {isNew : Bool} {pem : String} {w : Write}
    (h : w ∈ accountWrites config isNew pem) : w.path = config.accountKey := by
  rw [accountWrites] at h
  split at h
  · cases List.mem_singleton.1 h
    rfl
  · cases h

/-- However the primary domain of a valid configuration is called, a run writes the files of its
certificate right in the destination. -/
theorem run_stays (hvalid : config.IsValid) (keys : KeySupply) (s : Session) :
    Stays config keys s := by
  obtain ⟨_, hdomains⟩ := Config.isDomain_of_isValid hvalid
  obtain ⟨account, deeds, contents, done, broken, htold, heffects⟩ := run_effects config keys s
  constructor
  case primary => exact Config.primary_mem hvalid
  case key => exact fun domain hmem => Path.liesIn_join _ (Storage.isName_key (hdomains domain hmem))
  case cert => exact fun domain hmem => Path.liesIn_join _ (Storage.isName_crt (hdomains domain hmem))
  case intermediate => exact Path.liesIn_join _ Storage.isName_intermediate
  case returned =>
    intro paths hok
    have hrunning := htold.running
    rw [hok] at hrunning
    exact hrunning.paths_eq
  case changed =>
    intro location hchanged
    obtain ⟨w, hw, hwhat⟩ := (heffects.intact location).resolve_left hchanged
    -- The account key lies where the configuration says; the domains have no say in that.
    rcases List.mem_append.1 (heffects.wrote.order.subset hw) with haccount | houtput
    · rw [Write.IsMade, path_of_mem_accountWrites haccount] at hwhat
      rcases hwhat with ⟨hnone, hmade, hway⟩ | ⟨hplace, _⟩
      · exact .inr (.inr ⟨⟨hnone, hmade⟩, .inl hway⟩)
      · exact .inl hplace
    · obtain ⟨name, hname, hlies⟩ := liesIn_of_mem hvalid houtput
      rcases hwhat with ⟨hnone, hmade, hway⟩ | ⟨hplace, _⟩
      · exact .inr (.inr ⟨⟨hnone, hmade⟩, .inr (hlies.isOnWay hway)⟩)
      · exact .inr (.inl ⟨name, hname, hplace.trans (hlies.place _)⟩)

/-- A valid configuration whose primary domain is called like the directory above. -/
def upwardConfig : Config where
  domains := [".."]
  destination := ⟨"certs"⟩
  caUrl := "acme://ca.test"
  agreement := "acme://ca.test/agreement"

theorem run_stays_upwardConfig :
    (files upwardConfig).keyPath = ⟨"certs/.._key.pem"⟩ ∧ upwardConfig.IsValid
      ∧ ∀ keys s, Stays upwardConfig keys s := by
  have hvalid : upwardConfig.IsValid := by decide +kernel
  exact ⟨by decide +kernel, hvalid, run_stays hvalid⟩

end Run

end Acme
