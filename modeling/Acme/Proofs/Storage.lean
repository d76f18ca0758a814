import Acme.Proofs.FileSystem
import Acme.Proofs.Octets
import Acme.Proofs.Session.Course
import Acme.Storage

/-!
# Writing files

A file is written by several calls. Wherever they stop, nothing has changed but the file, which
holds a part of its contents, and directories on the way to it (`Touches`); when none of them fails,
the file holds all of its contents (`write_carries`). `Filed` follows one file after the other.
-/

namespace Acme

open FileSystem Session

/-- A file to be written. -/
structure Write where
  path : Path
  contents : String
  /-- Nobody but the owner is to read the file. -/
  isPrivate : Bool
  deriving DecidableEq, Repr

namespace Write

def octets (w : Write) : Octets := Octets.ofText w.contents

/-- The mode of the file if it is new. -/
def mode (w : Write) : Nat := if w.isPrivate then privateMode else publicMode

/-- What is done once the contents are there. -/
def closing (w : Write) : List FileStep :=
  if w.isPrivate then [.sync w.path, .setMode w.path privateMode] else []

def steps (w : Write) : List FileStep :=
  .makeParent w.path :: .openEmpty w.path w.mode :: .append w.path w.octets :: w.closing

/-- What a write makes of what is at its place, at whatever call it stops. -/
inductive Becomes (w : Write) : Option Entry → Entry → Prop
  | made {part : Octets} (h : part <+: w.octets) : Becomes w none (.file part w.mode)
  | kept {part old : Octets} {mode : Nat} (h : part <+: w.octets) :
    Becomes w (some (.file old mode)) (.file part mode)
  | closed {part old : Octets} {mode : Nat} (hw : w.isPrivate = true) (h : part <+: w.octets) :
    Becomes w (some (.file old mode)) (.file part privateMode)

variable {w : Write} {before : Option Entry} {entry entry' : Entry}

theorem Becomes.trans (h : w.Becomes before entry) (h' : w.Becomes (some entry) entry') :
    w.Becomes before entry' := by
  cases h with
  | made =>
    cases h' with
    | kept hpart => exact .made hpart
    | closed hw hpart =>
      have hmode : w.mode = privateMode := if_pos hw
      rw [← hmode]
      exact .made hpart
  | kept =>
    cases h' with
    | kept hpart => exact .kept hpart
    | closed hw hpart => exact .closed hw hpart
  | closed hw =>
    cases h' with
    | kept hpart => exact .closed hw hpart
    | closed _ hpart => exact .closed hw hpart

theorem Becomes.ne_directory (h : w.Becomes before entry) :
    before ≠ some .directory ∧ entry ≠ .directory := by
  cases h <;> exact ⟨nofun, nofun⟩

/-- A directory is made on the way to the file. -/
def IsMade (w : Write) (fs fs' : FileSystem) (location : Location) : Prop :=
  fs.lookup location = none ∧ fs'.lookup location = some .directory
    ∧ w.path.IsOnWay fs.current location

/-- Nothing has changed but the file and directories on the way to it. -/
structure Touches (w : Write) (fs fs' : FileSystem) : Prop where
  current : fs'.current = fs.current
  lookup : ∀ location, fs'.lookup location = fs.lookup location ∨ w.IsMade fs fs' location
    ∨ location = w.path.place fs.current
      ∧ ∃ entry, fs'.lookup location = some entry ∧ w.Becomes (fs.lookup location) entry

variable {fs fs' fs'' : FileSystem}

namespace Touches

theorem refl (w : Write) (fs : FileSystem) : w.Touches fs fs :=
  ⟨rfl, fun _ => .inl rfl⟩

theorem trans (h : w.Touches fs fs') (h' : w.Touches fs' fs'') : w.Touches fs fs'' := by
  refine ⟨h'.current.trans h.current, fun location => ?_⟩
  have hstep := h'.lookup location
  rw [IsMade, h.current] at hstep
  rcases h.lookup location with hsame | ⟨hnone, hmade, hway⟩ | ⟨hplace, entry, hentry, hbecomes⟩
  · rw [hsame] at hstep
    exact hstep
  · refine .inr (.inl ⟨hnone, ?_, hway⟩)
    rw [hmade] at hstep
    rcases hstep with hsame' | ⟨hnone', _⟩ | ⟨_, _, _, hbecomes'⟩
    · exact hsame'
    · cases hnone'
    · exact absurd rfl hbecomes'.ne_directory.1
  · refine .inr (.inr ⟨hplace, ?_⟩)
    rw [hentry] at hstep
    rcases hstep with hsame' | ⟨hnone', _⟩ | ⟨_, entry', hentry', hbecomes'⟩
    · exact ⟨entry, hsame', hbecomes⟩
    · cases hnone'
    · exact ⟨entry', hentry', hbecomes.trans hbecomes'⟩

theorem keeps (h : w.Touches fs fs') : Keeps fs fs' := by
  refine ⟨h.current, fun location hdirectory => ?_⟩
  rcases h.lookup location with hsame | ⟨hnone, _⟩ | ⟨_, _, _, hbecomes⟩
  · rw [hsame, hdirectory]
  · rw [hdirectory] at hnone
    cases hnone
  · exact absurd hdirectory hbecomes.ne_directory.1

theorem of_makes (h : Makes (w.path.IsOnWay fs.current) fs fs') : w.Touches fs fs' :=
  ⟨h.current, fun location => (h.lookup location).imp_right .inl⟩

theorem store {entry : Entry} (h : w.Becomes (fs.lookup (w.path.place fs.current)) entry) :
    w.Touches fs (fs.store (w.path.place fs.current) entry) := by
  refine ⟨rfl, fun location => ?_⟩
  by_cases hplace : location = w.path.place fs.current
  · refine .inr (.inr ⟨hplace, entry, ?_, hplace ▸ h⟩)
    have hroot : location ≠ [] := by
      rintro rfl
      rw [← hplace] at h
      exact absurd (if_pos rfl) h.ne_directory.1
    rw [← hplace]
    exact lookup_store_self fs location entry hroot
  · exact .inl (lookup_store_of_ne fs entry hplace)

end Touches

/-! ## What the file holds -/

/-- The file is found with these contents and this mode. -/
def Holds (w : Write) (octets : Octets) (mode : Nat) (fs : FileSystem) : Prop :=
  fs.stat w.path = .ok (w.path.place fs.current, .file octets mode)

/-- The file is written: it holds its contents, and if it is private then only its owner may read
it. -/
def IsWritten (w : Write) (fs : FileSystem) : Prop :=
  ∃ mode, w.Holds w.octets mode fs ∧ (w.isPrivate = true → mode = privateMode)

theorem holds_store {contents : Octets} {mode : Nat}
    (hl : fs.locate w.path = .ok (w.path.place fs.current)) (hm : w.path.meansDirectory = false)
    (h : w.Becomes (fs.lookup (w.path.place fs.current)) (.file contents mode)) :
    w.Holds contents mode (fs.store (w.path.place fs.current) (.file contents mode)) := by
  have htouches := Touches.store h
  refine stat_of_file (htouches.keeps.locate hl) ?_ hm
  refine lookup_store_self fs _ _ fun hroot => ?_
  rw [hroot] at h
  exact absurd (if_pos rfl) h.ne_directory.1

/-! ## The calls -/

/-- Calls are made in order until one fails. -/
inductive Calling : FileSystem → List FileStep → Option SystemFault → FileSystem → Prop
  | nil {fs : FileSystem} : Calling fs [] none fs
  | stopped {fs fs' : FileSystem} {step : FileStep} {rest : List FileStep} {fault : SystemFault}
    (h : Leaves step fs (some fault) fs') : Calling fs (step :: rest) (some fault) fs'
  | cons {fs fs' fs'' : FileSystem} {step : FileStep} {rest : List FileStep}
    {fault : Option SystemFault} (h : Leaves step fs none fs') (hr : Calling fs' rest fault fs'') :
    Calling fs (step :: rest) fault fs''

theorem Calling.split {fs fs'' : FileSystem} {steps more : List FileStep}
    (h : Calling fs (steps ++ more) none fs'') :
    ∃ fs', Calling fs steps none fs' ∧ Calling fs' more none fs'' := by
  induction steps generalizing fs with
  | nil => exact ⟨fs, .nil, h⟩
  | cons step steps ih =>
    cases h with
    | cons hstep hrest =>
      obtain ⟨fs', hsteps, hmore⟩ := ih hrest
      exact ⟨fs', .cons hstep hsteps, hmore⟩

/-- The files after all of these calls, if none of them fails. -/
def callAll? (fs : FileSystem) : List FileStep → Option FileSystem
  | [] => some fs
  | step :: rest =>
    match step.run fs with
    | .ok () fs => callAll? fs rest
    | .error _ _ => none

theorem calling_of_callAll? {fs fs' : FileSystem} {steps : List FileStep}
    (h : callAll? fs steps = some fs') : Calling fs steps none fs' := by
  induction steps generalizing fs with
  | nil =>
    cases h
    exact .nil
  | cons step rest ih =>
    rw [callAll?] at h
    split at h
    · next hrun => exact .cons (.done hrun) (ih h)
    · cases h

/-- Calls on a tree with a property touch the file alone, and leave a tree with another property if
none of them fails. -/
def Carries (w : Write) (P : FileSystem → Prop) (steps : List FileStep) (Q : FileSystem → Prop) :
    Prop :=
  ∀ fs fault fs', P fs → Calling fs steps fault fs' → w.Touches fs fs' ∧ (fault = none → Q fs')

variable {P Q R : FileSystem → Prop} {step : FileStep} {rest : List FileStep}

theorem carries_nil (h : ∀ fs, P fs → Q fs) : w.Carries P [] Q := by
  intro fs fault fs' hp hcalling
  cases hcalling with
  | nil => exact ⟨.refl w fs, fun _ => h fs hp⟩

theorem carries_cons (hstep : ∀ fs fault fs', P fs → Leaves step fs fault fs' →
      w.Touches fs fs' ∧ (fault = none → Q fs'))
    (hrest : w.Carries Q rest R) : w.Carries P (step :: rest) R := by
  intro fs fault fs'' hp hcalling
  cases hcalling with
  | stopped h => exact ⟨(hstep _ _ _ hp h).1, nofun⟩
  | cons h hr =>
    obtain ⟨htouches, hq⟩ := hstep _ _ _ hp h
    obtain ⟨htouches', hr'⟩ := hrest _ _ _ (hq rfl) hr
    exact ⟨htouches.trans htouches', hr'⟩

theorem makeParent_leaves {fault : Option SystemFault} (h : Leaves (.makeParent w.path) fs fault fs') :
    Makes (w.path.IsOnWay fs.current) fs fs' := by
  have hmakes := fs.makeParent_makes w.path
  rw [FileSystem.after] at hmakes
  cases h with
  | done hrun =>
    rw [show makeParent w.path fs = .ok () fs' from hrun] at hmakes
    exact hmakes
  | failed hrun =>
    rw [show makeParent w.path fs = .error _ fs' from hrun] at hmakes
    exact hmakes
  | refused => exact .refl fs

theorem makeParent_spec {fault : Option SystemFault} (h : Leaves (.makeParent w.path) fs fault fs') :
    w.Touches fs fs' :=
  .of_makes (makeParent_leaves h)

theorem openEmpty_spec {fault : Option SystemFault}
    (h : Leaves (.openEmpty w.path w.mode) fs fault fs') :
    w.Touches fs fs' ∧ (fault = none → ∃ mode, w.Holds [] mode fs') := by
  cases h with
  | done hrun =>
    obtain ⟨mode, hl, hm, hlookup, rfl⟩ := FileStep.runOpen_eq_ok hrun
    have hbecomes : w.Becomes (fs.lookup (w.path.place fs.current)) (.file [] mode) := by
      rcases hlookup with ⟨hnone, rfl⟩ | ⟨old, hfile⟩
      · rw [hnone]
        exact .made List.nil_prefix
      · rw [hfile]
        exact .kept List.nil_prefix
    exact ⟨.store hbecomes, fun _ => ⟨mode, holds_store hl hm hbecomes⟩⟩
  | failed hrun =>
    obtain rfl := FileStep.runOpen_eq_error hrun
    exact ⟨.refl w _, nofun⟩
  | refused => exact ⟨.refl w fs, nofun⟩

theorem update_spec {update : Octets → Nat → Entry} {contents contents' : Octets} {mode mode' : Nat}
    {fault : Option SystemFault} (hrun : step.run = FileStep.runUpdate w.path update)
    (hholds : w.Holds contents mode fs) (hupdate : update contents mode = .file contents' mode')
    (hbecomes : w.Becomes (some (.file contents mode)) (.file contents' mode'))
    (h : Leaves step fs fault fs') :
    w.Touches fs fs' ∧ (fault = none → w.Holds contents' mode' fs') := by
  cases h with
  | done h =>
    rw [hrun] at h
    obtain ⟨contents₁, mode₁, hstat, rfl⟩ := FileStep.runUpdate_eq_ok h
    have hsame : (Entry.file contents₁ mode₁) = .file contents mode := by
      have hfound := hstat.symm.trans hholds
      cases hfound
      rfl
    cases hsame
    obtain ⟨hl, hlookup, hm⟩ := stat_eq_ok hholds
    have hmeans : w.path.meansDirectory = false := by
      rw [← Bool.not_eq_true]
      exact fun hd => Entry.noConfusion (hm hd)
    rw [← hlookup] at hbecomes
    rw [hupdate]
    exact ⟨.store hbecomes, fun _ => holds_store hl hmeans hbecomes⟩
  | failed h =>
    rw [hrun] at h
    obtain rfl := FileStep.runUpdate_eq_error h
    exact ⟨.refl w _, nofun⟩
  | refused => exact ⟨.refl w fs, nofun⟩

theorem closing_carries (w : Write) :
    w.Carries (fun fs => ∃ mode, w.Holds w.octets mode fs) w.closing w.IsWritten := by
  rw [closing]
  cases hw : w.isPrivate with
  | false =>
    rw [if_neg Bool.false_ne_true]
    refine carries_nil fun fs ⟨mode, hholds⟩ => ⟨mode, hholds, fun h => ?_⟩
    rw [hw] at h
    cases h
  | true =>
    rw [if_pos rfl]
    refine carries_cons (Q := fun fs => ∃ mode, w.Holds w.octets mode fs) ?_ ?_
    · rintro fs fault fs' ⟨mode, hholds⟩ h
      have hsynced := update_spec rfl hholds rfl (.kept (List.prefix_refl _)) h
      exact ⟨hsynced.1, fun hok => ⟨mode, hsynced.2 hok⟩⟩
    · refine carries_cons (Q := w.IsWritten) ?_ (carries_nil fun _ h => h)
      rintro fs fault fs' ⟨mode, hholds⟩ h
      have hset : w.Touches fs fs' ∧ (fault = none → w.Holds w.octets privateMode fs') :=
        update_spec rfl hholds rfl (.closed hw (List.prefix_refl _)) h
      exact ⟨hset.1, fun hok => ⟨privateMode, hset.2 hok, fun _ => rfl⟩⟩

/-- The file is opened and a part of its contents is written, before anything else is done. -/
theorem filling_carries {part : Octets} (hpart : part <+: w.octets)
    (hrest : w.Carries (fun fs => ∃ mode, w.Holds part mode fs) rest Q) :
    w.Carries (fun _ => True)
      (.makeParent w.path :: .openEmpty w.path w.mode :: .append w.path part :: rest) Q := by
  refine carries_cons (Q := fun _ => True) ?_ ?_
  · intro fs fault fs' _ h
    exact ⟨makeParent_spec h, fun _ => trivial⟩
  · refine carries_cons (Q := fun fs => ∃ mode, w.Holds [] mode fs) ?_ ?_
    · intro fs fault fs' _ h
      exact openEmpty_spec h
    · refine carries_cons ?_ hrest
      rintro fs fault fs' ⟨mode, hholds⟩ h
      have hfilled : w.Touches fs fs' ∧ (fault = none → w.Holds part mode fs') :=
        update_spec rfl hholds rfl (.kept hpart) h
      exact ⟨hfilled.1, fun hok => ⟨mode, hfilled.2 hok⟩⟩

theorem write_carries (w : Write) : w.Carries (fun _ => True) w.steps w.IsWritten :=
  filling_carries (List.prefix_refl _) w.closing_carries

end Write

/-! ## One file after the other -/

/-- Files are written one after the other. The last one may be broken off. -/
inductive Filed : FileSystem → List Write → Option Write → FileSystem → Prop
  | nil {fs : FileSystem} : Filed fs [] none fs
  | broken {fs fs' : FileSystem} {w : Write} (ht : w.Touches fs fs') : Filed fs [] (some w) fs'
  | cons {fs fs' fs'' : FileSystem} {w : Write} {rest : List Write} {broken : Option Write}
    (ht : w.Touches fs fs') (hw : w.IsWritten fs') (hr : Filed fs' rest broken fs'') :
    Filed fs (w :: rest) broken fs''

namespace Filed

variable {fs fs' fs'' : FileSystem} {w : Write} {ws vs : List Write} {broken : Option Write}
  {location : Location}

theorem written (h : Write.Calling fs w.steps none fs') : Filed fs [w] none fs' := by
  obtain ⟨htouches, hwritten⟩ := w.write_carries _ _ _ trivial h
  exact .cons htouches (hwritten rfl) .nil

theorem stopped {fault : SystemFault} (h : Write.Calling fs w.steps (some fault) fs') :
    Filed fs [] (some w) fs' :=
  .broken (w.write_carries _ _ _ trivial h).1

theorem eq_of_nil (h : Filed fs [] none fs') : fs' = fs := by
  cases h with
  | nil => rfl

theorem append (h : Filed fs ws none fs') (h' : Filed fs' vs broken fs'') :
    Filed fs (ws ++ vs) broken fs'' := by
  generalize hnone : (none : Option Write) = last at h
  induction h with
  | nil => exact h'
  | broken => cases hnone
  | cons ht hw _ ih => exact .cons ht hw (ih h' hnone)

theorem keeps (h : Filed fs ws broken fs') : Keeps fs fs' := by
  induction h with
  | nil => exact ⟨rfl, fun _ hd => hd⟩
  | broken ht => exact ht.keeps
  | cons ht _ _ ih =>
    exact ⟨ih.current.trans ht.current, fun l hd => ih.directory l (ht.keeps.directory l hd)⟩

/-- A location changes only if it is the place of one of the files, or a directory is made there on
the way to one of them. -/
theorem lookup (h : Filed fs ws broken fs') (location : Location) :
    fs'.lookup location = fs.lookup location
      ∨ ∃ w ∈ ws ++ broken.toList, w.IsMade fs fs' location
        ∨ location = w.path.place fs.current ∧ fs.lookup location ≠ some .directory := by
  -- What the first file leaves alone the others may change; what it makes they keep.
  induction h with
  | nil => exact .inl rfl
  | @broken fs fs' w ht =>
    rcases ht.lookup location with hsame | hmade | ⟨hplace, _, _, hbecomes⟩
    · exact .inl hsame
    · exact .inr ⟨w, List.mem_singleton_self w, .inl hmade⟩
    · exact .inr ⟨w, List.mem_singleton_self w, .inr ⟨hplace, hbecomes.ne_directory.1⟩⟩
  | @cons fs fs' fs'' w rest broken ht _ hr ih =>
    rcases ht.lookup location with hsame | ⟨hnone, hmade, hway⟩ | ⟨hplace, _, _, hbecomes⟩
    · rcases ih with hsame' | ⟨v, hv, hmade | ⟨hplace, hne⟩⟩
      · exact .inl (hsame'.trans hsame)
      · rw [Write.IsMade, hsame, ht.current] at hmade
        exact .inr ⟨v, List.mem_cons_of_mem _ hv, .inl hmade⟩
      · rw [ht.current] at hplace
        rw [hsame] at hne
        exact .inr ⟨v, List.mem_cons_of_mem _ hv, .inr ⟨hplace, hne⟩⟩
    · exact .inr ⟨w, List.mem_cons_self, .inl ⟨hnone, hr.keeps.directory _ hmade, hway⟩⟩
    · exact .inr ⟨w, List.mem_cons_self, .inr ⟨hplace, hbecomes.ne_directory.1⟩⟩

/-- A file stays as it is if none is written in its place. -/
theorem stat {path : Path} {contents : Octets} {mode : Nat} (h : Filed fs ws broken fs')
    (hs : fs.stat path = .ok (location, .file contents mode))
    (hne : ∀ w ∈ ws ++ broken.toList, location ≠ w.path.place fs.current) :
    fs'.stat path = .ok (location, .file contents mode) := by
  have hfound := (stat_eq_ok hs).2.1
  refine h.keeps.stat hs ?_
  rcases h.lookup location with hsame | ⟨w, hw, ⟨hnone, _⟩ | ⟨hplace, _⟩⟩
  · rw [hsame]
    exact hfound
  · rw [hnone] at hfound
    cases hfound
  · exact absurd hplace (hne w hw)

/-- The first file is still as it was written, if none is written in its place. -/
theorem isWritten (h : Filed fs (w :: ws) broken fs')
    (hne : ∀ v ∈ ws ++ broken.toList, w.path.place fs.current ≠ v.path.place fs.current) :
    w.IsWritten fs' := by
  cases h with
  | cons ht hw hr =>
    obtain ⟨mode, hholds, hprivate⟩ := hw
    refine ⟨mode, ?_, hprivate⟩
    rw [Write.Holds, hr.keeps.current]
    rw [Write.Holds] at hholds
    refine hr.stat hholds fun v hv => ?_
    rw [ht.current]
    exact hne v hv

theorem tail (h : Filed fs (w :: ws) broken fs') :
    ∃ fs₁, fs₁.current = fs.current ∧ Filed fs₁ ws broken fs' := by
  cases h with
  | cons ht _ hr => exact ⟨_, ht.current, hr⟩

end Filed

theorem Write.IsWritten.read {w : Write} {fs : FileSystem} (h : w.IsWritten fs) :
    fs.read w.path = .ok w.octets := by
  obtain ⟨mode, hholds, _⟩ := h
  exact read_of_stat hholds

/-! ## Reading -/

/-- The text of a stored key is read back for as long as the file is left alone. -/
theorem read_of_storedKey {fs fs' : FileSystem} {ws : List Write} {broken : Option Write} {path : Path}
    {text : String} (hs : storedKey fs path = .ok (some text)) (h : Filed fs ws broken fs')
    (hne : ∀ w ∈ ws ++ broken.toList, path.place fs.current ≠ w.path.place fs.current) :
    fs'.read path = .ok (Octets.ofText text) := by
  rw [storedKey] at hs
  split at hs
  · split at hs
    · cases hs
    · rename_i octets hread
      split at hs
      · cases hs
      · rename_i hoctets
        cases hs
        rw [FileSystem.read] at hread
        split at hread
        · cases hread
        · cases hread
        · rename_i location contents mode hstat
          cases hread
          obtain rfl := locate_eq (stat_eq_ok hstat).1
          rw [Octets.ofText_of_text? hoctets]
          exact read_of_stat (h.stat hstat hne)
  · cases hs

end Acme
