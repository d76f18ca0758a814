import Acme.Proofs.Storage

/-!
# Who can read a private file

At every point of a private write, whichever of its calls fails, the file is for its owner alone, or
others could read it before (`writePrivate_secrecy`). A file that was there before keeps its mode until
the last call, and its new contents are readable for those that could read the old ones until then
(`overwritten_holds`).
-/

namespace Acme

open FileSystem Session

/-- A file of this mode gives nothing to the group and to others. -/
def IsOwnersOnly (mode : Nat) : Prop :=
  mode &&& 0o077 = 0

instance (mode : Nat) : Decidable (IsOwnersOnly mode) :=
  inferInstanceAs (Decidable (_ = _))

theorem isOwnersOnly_privateMode : IsOwnersOnly privateMode := by decide

/-! ## Points of a write -/

/-- The calls up to which a part of the contents has been written. -/
def partialSteps (path : Path) (part : Octets) : List FileStep :=
  [.makeParent path, .openEmpty path privateMode, .append path part]

/-- The calls of a private write up to some point, which lies between two calls or inside the
writing of the contents. -/
inductive Underway (path : Path) (contents : String) : List FileStep → Prop
  | between {steps : List FileStep} (h : steps <+: privateSteps path contents) :
    Underway path contents steps
  | within {part : Octets} (h : part <+: Octets.ofText contents) :
    Underway path contents (partialSteps path part)

namespace Write

variable {w : Write} {fs fs' : FileSystem} {fault : Option SystemFault} {calls whole : List FileStep}
  {held old : Octets} {mode : Nat}

theorem calling_changeAll (s : Session) (steps : List FileStep) :
    ∃ fault, s.outcome (changeAll steps) = ended fault
      ∧ Calling s.files steps fault (s.after (changeAll steps)).files := by
  induction steps generalizing s with
  | nil => exact ⟨none, rfl, .nil⟩
  | cons step rest ih =>
    obtain ⟨fault, hend, _, _, _, _, hleaves⟩ := change_spec s step
    rw [changeAll]
    cases fault with
    | none =>
      obtain ⟨fault, hrest, hcalling⟩ := ih (s.after (change step))
      rw [outcome_bind_of_ok _ hend, after_bind_of_ok _ hend]
      exact ⟨fault, hrest, .cons hleaves hcalling⟩
    | some fault =>
      rw [outcome_bind_of_error _ hend, after_bind_of_error _ hend]
      exact ⟨some fault, rfl, .stopped hleaves⟩

theorem calling_of_ok {s : Session} {steps : List FileStep}
    (h : s.outcome (changeAll steps) = .ok ()) :
    Calling s.files steps none (s.after (changeAll steps)).files := by
  obtain ⟨fault, hend, hcalling⟩ := calling_changeAll s steps
  cases fault with
  | none => exact hcalling
  | some fault => cases hend.symm.trans h

/-- What the first calls leave is left by all of them, if the next one is refused. -/
theorem Calling.of_prefix (h : Calling fs calls fault fs') (hfront : calls <+: whole) :
    ∃ fault', Calling fs whole fault' fs' := by
  induction h generalizing whole with
  | nil =>
    cases whole with
    | nil => exact ⟨none, .nil⟩
    | cons step rest => exact ⟨some .noEntry, .stopped .refused⟩
  | stopped hstep =>
    obtain ⟨rest, rfl⟩ := hfront
    exact ⟨_, .stopped hstep⟩
  | cons hstep _ ih =>
    obtain ⟨rest, rfl⟩ := hfront
    obtain ⟨fault', hcalling⟩ := ih (List.prefix_append _ rest)
    exact ⟨fault', .cons hstep hcalling⟩

/-- At every point of a private write no more has changed than at its end. -/
theorem touches_underway (hw : w.isPrivate = true) (h : Underway w.path w.contents calls)
    (hcalling : Calling fs calls fault fs') : w.Touches fs fs' := by
  have hmode : w.mode = privateMode := if_pos hw
  cases h with
  | between hprefix =>
    have hsteps : w.steps = privateSteps w.path w.contents := by
      rw [steps, hmode, closing, if_pos hw]
      rfl
    obtain ⟨fault', hwhole⟩ := hcalling.of_prefix hprefix
    rw [← hsteps] at hwhole
    exact (w.write_carries _ _ _ trivial hwhole).1
  | within hpart =>
    have hfilling := filling_carries hpart (carries_nil fun _ h => h)
    rw [hmode] at hfilling
    exact (hfilling _ _ _ trivial hcalling).1

/-- What the file of a write holds was there before, or is a part of the contents. -/
theorem Touches.found (h : w.Touches fs fs')
    (hf : fs'.lookup (w.path.place fs.current) = some (.file held mode)) :
    fs.lookup (w.path.place fs.current) = some (.file held mode)
      ∨ w.Becomes (fs.lookup (w.path.place fs.current)) (.file held mode) := by
  rcases h.lookup (w.path.place fs.current) with hsame | ⟨_, hmade, _⟩ | ⟨_, entry, hentry, hbecomes⟩
  · exact .inl (hsame.symm.trans hf)
  · rw [hmade] at hf
    cases hf
  · cases hentry.symm.trans hf
    exact .inr hbecomes

theorem Becomes.held_prefix {before : Option Entry}
    (h : w.Becomes before (.file held mode)) : held <+: w.octets := by
  cases h with
  | made hpart => exact hpart
  | kept hpart => exact hpart
  | closed _ hpart => exact hpart

theorem Becomes.isOwnersOnly {before : Option Entry} (hw : w.isPrivate = true)
    (h : w.Becomes before (.file held mode)) :
    IsOwnersOnly mode ∨ ∃ old, before = some (.file old mode) := by
  cases h with
  | made =>
    rw [Write.mode, if_pos hw]
    exact .inl isOwnersOnly_privateMode
  | kept => exact .inr ⟨_, rfl⟩
  | closed => exact .inl isOwnersOnly_privateMode

/-! ## Files that were there before -/

/-- A file that is opened keeps the mode that it has. -/
theorem openEmpty_holds (hf : fs.lookup (w.path.place fs.current) = some (.file old mode))
    (h : Leaves (.openEmpty w.path w.mode) fs none fs') :
    fs'.current = fs.current ∧ w.Holds [] mode fs' := by
  cases h with
  | done hrun =>
    obtain ⟨mode', hl, hm, hlookup, rfl⟩ := FileStep.runOpen_eq_ok hrun
    have hmode : mode' = mode := by
      rcases hlookup with ⟨hnone, _⟩ | ⟨old', hfile⟩
      · rw [hf] at hnone
        cases hnone
      · rw [hf] at hfile
        cases hfile
        rfl
    subst hmode
    refine ⟨rfl, holds_store hl hm ?_⟩
    rw [hf]
    exact .kept List.nil_prefix

/-- While its contents are being written, a file that was there before has the mode that it had. -/
theorem overwritten_holds (hpart : held <+: w.octets)
    (hf : fs.lookup (w.path.place fs.current) = some (.file old mode))
    (h : Calling fs [.makeParent w.path, .openEmpty w.path w.mode, .append w.path held] none fs') :
    fs'.current = fs.current ∧ w.Holds held mode fs' := by
  cases h with
  | cons hparent h =>
  cases h with
  | cons hopen h =>
  cases h with
  | cons happend h =>
  cases h with
  | nil =>
    rename_i fs₁ fs₂
    have hmakes := makeParent_leaves hparent
    have hkept : fs₁.lookup (w.path.place fs₁.current) = some (.file old mode) := by
      rw [hmakes.current]
      rcases hmakes.lookup (w.path.place fs.current) with hsame | ⟨hnone, _, _⟩
      · exact hsame.trans hf
      · rw [hf] at hnone
        cases hnone
    obtain ⟨hcurrent, hempty⟩ := openEmpty_holds hkept hopen
    have hfilled : w.Touches fs₂ fs' ∧ (none = none → w.Holds held mode fs') :=
      update_spec rfl hempty rfl (.kept hpart) happend
    exact ⟨hfilled.1.current.trans (hcurrent.trans hmakes.current), hfilled.2 rfl⟩

end Write

/-! ## The write -/

/-- What others can do with the file of a private write. -/
structure Secrecy (path : Path) (contents : String) (s : Session) : Prop where
  /-- At every point the file holds what it held before, or a part of the contents. -/
  part : ∀ steps, Underway path contents steps → ∀ held mode,
    (s.after (changeAll steps)).files.lookup (path.place s.files.current) = some (.file held mode) →
      s.files.lookup (path.place s.files.current) = some (.file held mode)
        ∨ held <+: Octets.ofText contents
  /-- At every point the file is for its owner alone, unless it was there before with the mode that
  it has. -/
  guarded : ∀ steps, Underway path contents steps → ∀ held mode,
    (s.after (changeAll steps)).files.lookup (path.place s.files.current) = some (.file held mode) →
      IsOwnersOnly mode ∨ ∃ old, s.files.lookup (path.place s.files.current) = some (.file old mode)
  /-- A file that was there before has the mode that it had, for as long as the contents are being
  written. -/
  overwritten : ∀ old mode, s.files.lookup (path.place s.files.current) = some (.file old mode) →
    ∀ part, part <+: Octets.ofText contents →
      s.outcome (changeAll (partialSteps path part)) = .ok () →
        (s.after (changeAll (partialSteps path part))).files.stat path
          = .ok (path.place s.files.current, .file part mode)
  /-- In the end the file holds the contents and is for its owner alone. -/
  whole : s.outcome (writePrivate path contents) = .ok () →
    (s.after (writePrivate path contents)).files.stat path
      = .ok (path.place s.files.current, .file (Octets.ofText contents) privateMode)

theorem writePrivate_secrecy (path : Path) (contents : String) (s : Session) :
    Secrecy path contents s := by
  let w : Write := ⟨path, contents, true⟩
  have htouches {steps : List FileStep} (h : Underway path contents steps) :
      w.Touches s.files (s.after (changeAll steps)).files := by
    obtain ⟨fault, _, hcalling⟩ := Write.calling_changeAll s steps
    exact Write.touches_underway rfl h hcalling
  constructor
  case part =>
    intro steps h held mode hf
    exact ((htouches h).found hf).imp_right Write.Becomes.held_prefix
  case guarded =>
    intro steps h held mode hf
    rcases (htouches h).found hf with hsame | hbecomes
    · exact .inr ⟨held, hsame⟩
    · exact hbecomes.isOwnersOnly rfl
  case overwritten =>
    intro old mode hf part hpart hok
    have hcalling := Write.calling_of_ok hok
    obtain ⟨hcurrent, hholds⟩ := Write.overwritten_holds (w := w) hpart hf hcalling
    rwa [Write.Holds, hcurrent] at hholds
  case whole =>
    intro hok
    rw [writePrivate, after_orFail]
    rw [writePrivate, outcome_orFail] at hok
    have hchanged : s.outcome (changeAll (privateSteps path contents)) = .ok () := by
      cases hr : s.outcome (changeAll (privateSteps path contents)) with
      | ok => rfl
      | error fault =>
        rw [hr] at hok
        cases hok
    obtain ⟨htouches, hwritten⟩ := w.write_carries _ _ _ trivial (Write.calling_of_ok hchanged)
    obtain ⟨mode, hholds, hmode⟩ := hwritten rfl
    rw [Write.Holds, htouches.current, hmode rfl] at hholds
    exact hholds

/-! ## A file that others can read -/

/-- A session with an account key that everybody can read. -/
def sharedKey : Session :=
  { files := { entries := [(["letsencrypt.key"], .file (Octets.ofText "old") 0o644)] } }

def sharedKeyPath : Path := ⟨"/letsencrypt.key"⟩

/-- Everybody can read the new key before the last call, and the old one after a write that is
refused. -/
theorem sharedKey_exposed :
    Underway sharedKeyPath "key" (partialSteps sharedKeyPath (Octets.ofText "key"))
      ∧ (sharedKey.after (changeAll (partialSteps sharedKeyPath (Octets.ofText "key")))).files.stat
          sharedKeyPath = .ok (["letsencrypt.key"], .file (Octets.ofText "key") 0o644)
      ∧ sharedKey.outcome (writePrivate ⟨"/letsencrypt.key/."⟩ "old") = .error (.io .notDirectory)
      ∧ (sharedKey.after (writePrivate ⟨"/letsencrypt.key/."⟩ "old")).files.stat sharedKeyPath
          = .ok (["letsencrypt.key"], .file (Octets.ofText "old") 0o644)
      ∧ ¬ IsOwnersOnly 0o644 := by
  refine ⟨.within (List.prefix_refl _), ?_, ?_, ?_, ?_⟩
  · decide +kernel
  · decide +kernel
  · decide +kernel
  · decide

end Acme
