import Acme.Proofs.Run.Halting

/-!
# Exit codes

The exit code of an execution tells how far it has come: whether the command line was understood,
whether a run started, and with which failure it ended (`execute_exits`).
-/

namespace Acme

open CommandLine (Invocation)

variable {arguments : List String} {environment : List (String × String)}
  {fault : Option SetupFault} {keys : KeySupply} {s : Session}

/-! ## How an execution begins -/

/-- Only a text is shown: the help, or the version. -/
def Informs (arguments : List String) (environment : List (String × String)) : Prop :=
  Invocation.read arguments environment = .error .help
    ∨ Invocation.read arguments environment = .error .version

/-- The command line is not understood. -/
def Misused (arguments : List String) (environment : List (String × String)) : Prop :=
  ∃ error, Invocation.read arguments environment = .error (.misuse error)

/-- The configuration is not valid. -/
def Rejected (arguments : List String) (environment : List (String × String)) : Prop :=
  ∃ invocation, Invocation.read arguments environment = .ok invocation
    ∧ ¬ invocation.config.IsValid

/-- A run is asked for, and its set-up fails. -/
def Unready (arguments : List String) (environment : List (String × String))
    (fault : Option SetupFault) : Prop :=
  fault ≠ none ∧ ∃ invocation, Invocation.read arguments environment = .ok invocation
    ∧ invocation.config.IsValid

/-- A run with this configuration is performed. -/
def Performs (arguments : List String) (environment : List (String × String))
    (fault : Option SetupFault) (config : Config) : Prop :=
  fault = none ∧ ∃ invocation, Invocation.read arguments environment = .ok invocation
    ∧ invocation.config.IsValid ∧ config = invocation.config

theorem begins (arguments : List String) (environment : List (String × String))
    (fault : Option SetupFault) :
    Informs arguments environment ∨ Misused arguments environment
      ∨ Rejected arguments environment ∨ Unready arguments environment fault
      ∨ ∃ config, Performs arguments environment fault config := by
  cases hread : Invocation.read arguments environment with
  | error stop =>
    cases stop with
    | help => exact .inl (.inl hread)
    | version => exact .inl (.inr hread)
    | misuse error => exact .inr (.inl ⟨error, hread⟩)
  | ok invocation =>
    by_cases hvalid : invocation.config.IsValid
    · cases fault with
      | some fault => exact .inr (.inr (.inr (.inl ⟨nofun, invocation, hread, hvalid⟩)))
      | none => exact .inr (.inr (.inr (.inr ⟨_, rfl, invocation, hread, hvalid, rfl⟩)))
    · exact .inr (.inr (.inl ⟨invocation, hread, hvalid⟩))

theorem Config.IsValid.domains_ne {config : Config} (h : config.IsValid) : config.domains ≠ [] := by
  intro hempty
  have hviolation : Config.Violation.noDomain ∈ config.violations := by
    rw [Config.violations, Config.domainViolations, if_pos hempty]
    simp
  rw [h] at hviolation
  cases hviolation

/-! ## How it ends -/

theorem execute_of_informs (h : Informs arguments environment) :
    (execute arguments environment fault keys s).1.exitCode = 0
      ∧ (execute arguments environment fault keys s).2 = s := by
  rw [execute, planOf]
  rcases h with h | h <;> rw [h] <;> exact ⟨rfl, rfl⟩

theorem execute_of_misused (h : Misused arguments environment) :
    (execute arguments environment fault keys s).1.exitCode = 2
      ∧ (execute arguments environment fault keys s).2 = s := by
  obtain ⟨error, h⟩ := h
  rw [execute, planOf, h]
  exact ⟨rfl, rfl⟩

theorem planOf_of_valid {invocation : Invocation}
    (h : Invocation.read arguments environment = .ok invocation)
    (hvalid : invocation.config.IsValid) :
    planOf arguments environment = .ok ⟨invocation.config,
      filterOf environment invocation.verbose, invocation.logFormat⟩ := by
  rw [planOf, h]
  exact if_pos hvalid

theorem execute_of_rejected (h : Rejected arguments environment) :
    (execute arguments environment fault keys s).1.exitCode = 1
      ∧ (execute arguments environment fault keys s).2 = s := by
  obtain ⟨invocation, h, hinvalid⟩ := h
  have hplan : ∃ words, planOf arguments environment
      = .error { exitCode := 1, complaint := some words } := by
    rw [planOf, h]
    exact ⟨_, if_neg hinvalid⟩
  obtain ⟨words, hplan⟩ := hplan
  rw [execute, hplan]
  exact ⟨rfl, rfl⟩

theorem execute_of_unready (h : Unready arguments environment fault) :
    (execute arguments environment fault keys s).1.exitCode = 1
      ∧ (execute arguments environment fault keys s).2 = s := by
  obtain ⟨hfault, invocation, h, hvalid⟩ := h
  obtain ⟨fault, rfl⟩ := Option.ne_none_iff_exists'.1 hfault
  rw [execute, planOf_of_valid h hvalid]
  exact ⟨rfl, rfl⟩

theorem execute_of_performs {config : Config}
    (h : Performs arguments environment fault config) :
    ∃ plan : Plan, plan.config = config
      ∧ execute arguments environment fault keys s = plan.perform keys s := by
  obtain ⟨rfl, invocation, h, hvalid, rfl⟩ := h
  refine ⟨⟨invocation.config, filterOf environment invocation.verbose, invocation.logFormat⟩, rfl, ?_⟩
  rw [execute, planOf_of_valid h hvalid]
  dsimp only
  rw [Plan.start, DomainList.ofList?, if_neg hvalid.domains_ne]

theorem exitCode_of_performs {config : Config}
    (h : Performs arguments environment fault config) :
    (execute arguments environment fault keys s).1.exitCode
      = exitCodeOf (s.outcome (run config keys)) := by
  obtain ⟨plan, rfl, hexecute⟩ := @execute_of_performs _ _ _ keys s _ h
  rw [hexecute, plan.exitCode_perform]

theorem session_of_performs {config : Config}
    (h : Performs arguments environment fault config) :
    (execute arguments environment fault keys s).2 = s.after (run config keys) := by
  obtain ⟨plan, rfl, hexecute⟩ := @execute_of_performs _ _ _ keys s _ h
  rw [hexecute, plan.snd_perform]

/-- The ways in which an execution ends, with the exit code. -/
inductive Ending (arguments : List String) (environment : List (String × String))
    (fault : Option SetupFault) (keys : KeySupply) (s : Session) (code : Nat) : Prop
  | informed (h : Informs arguments environment) (hcode : code = 0)
  | misused (h : Misused arguments environment) (hcode : code = 2)
  | rejected (h : Rejected arguments environment) (hcode : code = 1)
  | unready (h : Unready arguments environment fault) (hcode : code = 1)
  | succeeded {config : Config} {files : IssuedFiles}
    (h : Performs arguments environment fault config)
    (ho : s.outcome (run config keys) = .ok files) (hcode : code = 0)
  | failed {config : Config} {f : Failure} (h : Performs arguments environment fault config)
    (ho : s.outcome (run config keys) = .error f) (hcode : code = f.exitCode)

theorem execute_ends (arguments : List String) (environment : List (String × String))
    (fault : Option SetupFault) (keys : KeySupply) (s : Session) :
    Ending arguments environment fault keys s
      (execute arguments environment fault keys s).1.exitCode := by
  rcases begins arguments environment fault with h | h | h | h | ⟨config, h⟩
  · exact .informed h (execute_of_informs h).1
  · exact .misused h (execute_of_misused h).1
  · exact .rejected h (execute_of_rejected h).1
  · exact .unready h (execute_of_unready h).1
  · have hcode := @exitCode_of_performs _ _ _ keys s _ h
    cases ho : s.outcome (run config keys) with
    | ok files =>
      rw [ho] at hcode
      exact .succeeded h ho hcode
    | error f =>
      rw [ho] at hcode
      exact .failed h ho hcode

/-! ## The account key -/

namespace Run

/-- No account key is stored, and none could be made or written. -/
def Unsaved (config : Config) (keys : KeySupply) (s : Session) : Prop :=
  s.files.exists? config.accountKey = false
    ∧ ((∃ error, keys.account config.accountKeyBits = .error error)
      ∨ ∃ pem fault, keys.account config.accountKeyBits = .ok pem
        ∧ Write.Calling s.files (privateSteps config.accountKey pem) (some fault)
          (s.after (run config keys)).files)

theorem unsaved_of_accountKeyWrite {config : Config} {path : Path} {reason : String}
    (h : s.outcome (run config keys) = .error (.accountKeyWrite path reason)) :
    path = config.accountKey ∧ Unsaved config keys s := by
  obtain ⟨account, deeds, htold⟩ := run_follows config keys s
  have hfits := ((run_halts_or_done config keys s).failed _ h).fits
  have hrunning := htold.running
  rw [h] at hrunning
  have hfiles := htold.happened.files
  rw [htold.happened.phase] at hfits
  generalize hr : (Except.error (.accountKeyWrite path reason) : Except Failure _) = r at hrunning
  generalize (s.after (run config keys)).guards = g at hrunning
  cases hrunning with
  | unkept hk =>
    cases hr
    generalize hr : (Except.error (.accountKeyWrite path reason) : Except Failure _) = r at hk
    cases hk with
    | unmade hp he =>
      cases hr
      exact ⟨rfl, hp, .inl ⟨_, he⟩⟩
    | @unsaved pem ds fault hp hk hs =>
      cases hr
      exact ⟨rfl, hp, .inr ⟨pem, fault, hk, hs.calling hfiles⟩⟩
    | _ => cases hr
  | unkeyed => cases hr
  | @proceeding ds es isNew certKey r g hk hc hp =>
    have hinit := hp.not_init hk { s with nonce := none }.phase
    cases hphase : (phasesOf (entering .init :: (ds ++ es))).getLast?.getD
        { s with nonce := none }.phase with
    | init => exact absurd hphase hinit
    | _ =>
      rw [hphase] at hfits
      cases hfits

end Run

/-! ## Exit codes -/

/-- What the exit code of an execution tells. -/
structure Exits (arguments : List String) (environment : List (String × String))
    (fault : Option SetupFault) (keys : KeySupply) (s : Session) (code : Nat) (s' : Session) :
    Prop where
  success : code = 0 ↔ Informs arguments environment
    ∨ ∃ config files, Performs arguments environment fault config
      ∧ s.outcome (run config keys) = .ok files
  unstarted : code = 1 ↔ Rejected arguments environment ∨ Unready arguments environment fault
  /-- One code stands for two things. -/
  ambiguous : code = 2 ↔ Misused arguments environment
    ∨ ∃ config reason, Performs arguments environment fault config
      ∧ s.outcome (run config keys) = .error (.accountKeyWrite config.accountKey reason)
      ∧ Run.Unsaved config keys s
  failure : 2 < code → ∃ config f, Performs arguments environment fault config
    ∧ s.outcome (run config keys) = .error f ∧ f.exitCode = code
  /-- The code of a failure is the exit code as it is. -/
  unchanged : ∀ config f, Performs arguments environment fault config →
    s.outcome (run config keys) = .error f → code = f.exitCode
  /-- Nothing is done unless a run is performed: no request, no call on the files. -/
  idle : Informs arguments environment ∨ Misused arguments environment
    ∨ Rejected arguments environment ∨ Unready arguments environment fault → s' = s
  performed : ∀ config, Performs arguments environment fault config →
    s' = s.after (run config keys)

/-- The exit code tells how every execution ends. -/
theorem execute_exits (arguments : List String) (environment : List (String × String))
    (fault : Option SetupFault) (keys : KeySupply) (s : Session) :
    Exits arguments environment fault keys s
      (execute arguments environment fault keys s).1.exitCode
      (execute arguments environment fault keys s).2 := by
  have hends := execute_ends arguments environment fault keys s
  have hperforms {config : Config} (h : Performs arguments environment fault config) :=
    @exitCode_of_performs _ _ _ keys s _ h
  constructor
  case success =>
    constructor
    · intro hzero
      cases hends with
      | informed h => exact .inl h
      | succeeded h ho => exact .inr ⟨_, _, h, ho⟩
      | @failed _ f _ _ hcode =>
        have hle := two_le_exitCode f
        omega
      | _ _ hcode => omega
    · rintro (h | ⟨config, files, h, ho⟩)
      · exact (execute_of_informs h).1
      · rw [hperforms h, ho, exitCodeOf]
  case unstarted =>
    constructor
    · intro hone
      cases hends with
      | rejected h => exact .inl h
      | unready h => exact .inr h
      | @failed _ f _ _ hcode =>
        have hle := two_le_exitCode f
        omega
      | succeeded _ _ hcode => omega
      | _ _ hcode => omega
    · rintro (h | h)
      · exact (execute_of_rejected h).1
      · exact (execute_of_unready h).1
  case ambiguous =>
    constructor
    · intro htwo
      cases hends with
      | misused h => exact .inl h
      | failed h ho hcode =>
        obtain ⟨path, reason, rfl⟩ := exitCode_eq_two (hcode.symm.trans htwo)
        obtain ⟨rfl, hunsaved⟩ := Run.unsaved_of_accountKeyWrite ho
        exact .inr ⟨_, reason, h, ho, hunsaved⟩
      | succeeded _ _ hcode => omega
      | _ _ hcode => omega
    · rintro (h | ⟨config, reason, h, ho, _⟩)
      · exact (execute_of_misused h).1
      · rw [hperforms h, ho, exitCodeOf, Failure.exitCode]
  case failure =>
    intro hlt
    cases hends with
    | failed h ho hcode => exact ⟨_, _, h, ho, hcode.symm⟩
    | succeeded _ _ hcode => omega
    | _ _ hcode => omega
  case unchanged =>
    intro config f h ho
    rw [hperforms h, ho, exitCodeOf]
  case idle =>
    rintro (h | h | h | h)
    · exact (execute_of_informs h).2
    · exact (execute_of_misused h).2
    · exact (execute_of_rejected h).2
    · exact (execute_of_unready h).2
  case performed => exact fun config h => session_of_performs h

end Acme
