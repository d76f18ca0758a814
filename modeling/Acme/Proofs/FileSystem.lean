import Acme.FileSystem
import Mathlib.Data.List.Infix

/-!
# What calls on the files change

A path leads to one place, whatever the tree holds (`Path.place`), and it keeps doing so as long as
directories stay. A call on the files changes what is at the place of its path, and may make
directories on the way to it; `Touches` says so of one call or several.
-/

namespace Acme

/-! ## Places -/

/-- Where names lead from a location, if they lead anywhere. -/
def follow (location : Location) : List String → Location
  | [] => location
  | name :: rest => follow (if name = ".." then location.dropLast else location ++ [name]) rest

theorem follow_append (location : Location) (names more : List String) :
    follow location (names ++ more) = follow (follow location names) more := by
  induction names generalizing location with
  | nil => rfl
  | cons name names ih => exact ih _

namespace Path

/-- The directory that the names of a path start from. -/
def start (path : Path) (current : Location) : Location :=
  if path.isAbsolute then [] else current

/-- The place that a path leads to. -/
def place (path : Path) (current : Location) : Location :=
  follow (path.start current) path.components

/-- The operating system does not refuse the path by its text. -/
def IsUsable (path : Path) : Prop :=
  ¬ path.text.toList.contains '\x00' = true ∧ path.text ≠ ""
    ∧ ¬ FileSystem.maxPathLength < path.text.utf8ByteSize

/-- The location is that of a directory on the way to the place of a path. -/
def IsOnWay (path : Path) (current location : Location) : Prop :=
  ∃ names, names <+: path.components.dropLast ∧ location = follow (path.start current) names

/-! ## Names below a directory -/

variable {base : Path} {name other : String}

/-- A name that leads to a place in the directory it is given for. -/
structure IsName (name : String) : Prop where
  slashless : '/' ∉ name.toList
  ne_empty : name ≠ ""
  ne_dot : name ≠ "."
  ne_up : name ≠ ".."

theorem isAbsolute_of_isName (h : IsName name) : (Path.mk name).isAbsolute = false := by
  rw [isAbsolute, beq_eq_false_iff_ne]
  exact fun hhead => h.slashless (List.mem_of_mem_head? hhead)

/-- The components of a text, the last of them from a name. -/
theorem filter_splitOn_name (h : IsName name) (front : List (List Char)) :
    (((front ++ name.toList.splitOn '/').map String.ofList).filter fun c => c ≠ "" ∧ c ≠ ".")
      = ((front.map String.ofList).filter fun c => c ≠ "" ∧ c ≠ ".") ++ [name] := by
  have hkept : decide (name ≠ "" ∧ name ≠ ".") = true := decide_eq_true ⟨h.ne_empty, h.ne_dot⟩
  rw [List.splitOn_eq_singleton h.slashless, List.map_append, List.filter_append, List.map_singleton,
    String.ofList_toList, List.filter_singleton, hkept, cond_true]

theorem components_join (h : IsName name) :
    (base.join name).components = base.components ++ [name] := by
  rw [join, isAbsolute_of_isName h, if_neg Bool.false_ne_true]
  split
  · rename_i hbase
    rcases hbase with hempty | hslash
    · rw [components, components, hempty, String.empty_append]
      exact filter_splitOn_name h []
    · obtain ⟨front, hfront⟩ := List.getLast?_eq_some_iff.1 hslash
      rw [components, components, String.toList_append, hfront, List.append_assoc,
        List.singleton_append, List.splitOn_append_cons_self, List.splitOn_append_cons_self,
        filter_splitOn_name h, List.splitOn_nil, List.map_append, List.filter_append]
      simp
  · rw [components, components, String.toList_append, String.toList_append, List.append_assoc,
      show "/".toList = ['/'] from rfl, List.singleton_append, List.splitOn_append_cons_self,
      filter_splitOn_name h]

theorem isAbsolute_join (h : IsName name) : (base.join name).isAbsolute = base.isAbsolute := by
  have hname := isAbsolute_of_isName h
  rw [join, hname, if_neg Bool.false_ne_true]
  have happend {front : String} (hne : front ≠ "") (rest : String) :
      (Path.mk (front ++ rest)).isAbsolute = (Path.mk front).isAbsolute := by
    rw [isAbsolute, isAbsolute, String.toList_append, List.head?_append_of_ne_nil]
    exact fun hnil => hne (String.toList_eq_nil_iff.1 hnil)
  by_cases hempty : base.text = ""
  · rw [if_pos (.inl hempty), hempty, String.empty_append, hname, isAbsolute, hempty]
    rfl
  · split
    · exact happend hempty name
    · rw [String.append_assoc]
      exact happend hempty _

theorem place_join (h : IsName name) (current : Location) :
    (base.join name).place current = base.place current ++ [name] := by
  rw [place, place, start, start, components_join h, isAbsolute_join h, follow_append, follow, follow,
    if_neg h.ne_up]

/-- Files of different names in one directory have different places. -/
theorem place_join_inj (h : IsName name) (h' : IsName other) {current : Location}
    (heq : (base.join name).place current = (base.join other).place current) : name = other := by
  rw [place_join h, place_join h'] at heq
  exact List.singleton_injective (List.append_cancel_left heq)

end Path

namespace FileSystem

variable {fs fs' fs'' : FileSystem} {path : Path} {location target : Location}
  {names : List String} {contents octets : Octets} {mode : Nat}

theorem stepTo_eq {name : String} (h : stepTo location name = .ok target) :
    target = if name = ".." then location.dropLast else location ++ [name] := by
  rw [stepTo] at h
  split at h
  · rename_i hup
    cases h
    rw [if_pos hup]
  · rename_i hup
    split at h
    · cases h
    · cases h
      rw [if_neg hup]

theorem walk_eq (h : fs.walk location names = .ok target) : target = follow location names := by
  fun_induction walk fs location names with
  | case1 location =>
    cases h
    rfl
  | case2 location name => exact stepTo_eq h
  | case3 => cases h
  | case4 location name rest _ next hstep _ ih =>
    rw [follow, ← stepTo_eq hstep]
    exact ih h
  | case5 => cases h
  | case6 => cases h

theorem locate_eq_ok_iff : fs.locate path = .ok location
    ↔ path.IsUsable ∧ fs.walk (path.start fs.current) path.components = .ok location := by
  constructor
  · intro h
    rw [locate] at h
    split at h
    · cases h
    · split at h
      · cases h
      · split at h
        · cases h
        · exact ⟨⟨‹_›, ‹_›, ‹_›⟩, h⟩
  · rintro ⟨⟨hnul, hempty, hlong⟩, hwalk⟩
    rw [locate, if_neg hnul, if_neg hempty, if_neg hlong]
    exact hwalk

theorem locate_eq (h : fs.locate path = .ok location) : location = path.place fs.current :=
  walk_eq (locate_eq_ok_iff.1 h).2

theorem stat_eq_ok {found : Location × Entry} (h : fs.stat path = .ok found) :
    fs.locate path = .ok found.1 ∧ fs.lookup found.1 = some found.2
      ∧ (path.meansDirectory = true → found.2 = .directory) := by
  rw [stat] at h
  split at h
  · cases h
  · rename_i location hlocate
    split at h
    · cases h
    · rename_i contents mode hlookup
      split at h
      · cases h
      · rename_i hmeans
        cases h
        exact ⟨hlocate, hlookup, fun hd => absurd hd hmeans⟩
    · rename_i hlookup
      cases h
      exact ⟨hlocate, hlookup, fun _ => rfl⟩

theorem stat_of_file (hl : fs.locate path = .ok location)
    (hf : fs.lookup location = some (.file contents mode)) (hm : path.meansDirectory = false) :
    fs.stat path = .ok (location, .file contents mode) := by
  rw [stat, hl]
  dsimp only
  rw [hf]
  dsimp only
  rw [if_neg (by rw [hm]; exact Bool.false_ne_true)]

theorem read_of_stat (h : fs.stat path = .ok (location, .file contents mode)) :
    fs.read path = .ok contents := by
  rw [read, h]

/-! ## Directories stay -/

/-- Every directory of one tree is a directory of another one. -/
structure Keeps (fs fs' : FileSystem) : Prop where
  current : fs'.current = fs.current
  directory : ∀ location, fs.lookup location = some .directory →
    fs'.lookup location = some .directory

namespace Keeps

theorem walk (h : Keeps fs fs') (hw : fs.walk location names = .ok target) :
    fs'.walk location names = .ok target := by
  fun_induction FileSystem.walk fs location names with
  | case1 location => exact hw
  | case2 location name => exact hw
  | case3 => cases hw
  | case4 location name rest hne next hstep hdir ih =>
    rw [FileSystem.walk]
    · rw [hstep]
      dsimp only
      rw [h.directory next hdir]
      exact ih hw
    · exact hne
  | case5 => cases hw
  | case6 => cases hw

theorem locate (h : Keeps fs fs') (hl : fs.locate path = .ok location) :
    fs'.locate path = .ok location := by
  obtain ⟨husable, hwalk⟩ := locate_eq_ok_iff.1 hl
  refine locate_eq_ok_iff.2 ⟨husable, ?_⟩
  rw [h.current]
  exact h.walk hwalk

/-- What was found by a path is found again if it is still in its place. -/
theorem stat (h : Keeps fs fs') (hs : fs.stat path = .ok (location, .file contents mode))
    (hf : fs'.lookup location = some (.file octets mode)) :
    fs'.stat path = .ok (location, .file octets mode) := by
  obtain ⟨hl, _, hm⟩ := stat_eq_ok hs
  refine stat_of_file (h.locate hl) hf ?_
  rw [← Bool.not_eq_true]
  exact fun hd => Entry.noConfusion (hm hd)

end Keeps

/-! ## Making directories -/

/-- The tree that an action leaves, whether it fails or not. -/
def after {α : Type} (fs : FileSystem) (action : Action α) : FileSystem :=
  match action fs with
  | .ok _ fs => fs
  | .error _ fs => fs

/-- Nothing changes but that directories are made where nothing was, at some of these locations. -/
structure Makes (allowed : Location → Prop) (fs fs' : FileSystem) : Prop where
  current : fs'.current = fs.current
  lookup : ∀ location, fs'.lookup location = fs.lookup location
    ∨ (fs.lookup location = none ∧ fs'.lookup location = some .directory ∧ allowed location)

variable {allowed : Location → Prop} {absolute : Bool}

namespace Makes

theorem refl (fs : FileSystem) : Makes allowed fs fs :=
  ⟨rfl, fun _ => .inl rfl⟩

theorem trans (h : Makes allowed fs fs') (h' : Makes allowed fs' fs'') :
    Makes allowed fs fs'' := by
  refine ⟨h'.current.trans h.current, fun location => ?_⟩
  rcases h.lookup location with hsame | ⟨hnone, hmade, hallowed⟩
  · rcases h'.lookup location with hsame' | ⟨hnone', hmade', hallowed'⟩
    · exact .inl (hsame'.trans hsame)
    · exact .inr ⟨hsame ▸ hnone', hmade', hallowed'⟩
  · rcases h'.lookup location with hsame' | ⟨hnone', _, _⟩
    · exact .inr ⟨hnone, hsame'.trans hmade, hallowed⟩
    · rw [hmade] at hnone'
      cases hnone'

theorem mono {allowed' : Location → Prop} (h : Makes allowed fs fs')
    (hle : ∀ location, allowed location → allowed' location) : Makes allowed' fs fs' :=
  ⟨h.current, fun location => (h.lookup location).imp_right fun ⟨hn, hd, ha⟩ => ⟨hn, hd, hle _ ha⟩⟩

end Makes

/-- Where names lead to from the directory that they start from. -/
def reached (fs : FileSystem) (absolute : Bool) (names : List String) : Location :=
  follow (if absolute then [] else fs.current) names

theorem bind_get {α : Type} (fs : FileSystem) (f : FileSystem → Action α) :
    (MonadState.get >>= f : Action α) fs = f fs fs := rfl

/-- A directory is made where nothing was, or nothing happens. -/
theorem makeDirectory_cases (fs : FileSystem) (absolute : Bool) (names : List String) :
    (∃ fault, makeDirectory absolute names fs = .error fault fs)
      ∨ fs.lookup (fs.reached absolute names) = none
        ∧ makeDirectory absolute names fs
          = .ok () (fs.store (fs.reached absolute names) .directory) := by
  rw [makeDirectory, bind_get]
  cases hlocate : fs.locateNames absolute names with
  | error fault => exact .inl ⟨fault, rfl⟩
  | ok location =>
    have hreached : location = fs.reached absolute names := walk_eq hlocate
    rw [← hreached]
    dsimp only
    cases hlookup : fs.lookup location with
    | some entry => exact .inl ⟨.exists, rfl⟩
    | none => exact .inr ⟨rfl, rfl⟩

theorem makes_store (h : fs.lookup location = none) :
    Makes (· = location) fs (fs.store location .directory) := by
  refine ⟨rfl, fun other => ?_⟩
  by_cases hother : other = location
  · subst hother
    have hroot : other ≠ [] := by
      rintro rfl
      rw [lookup, if_pos rfl] at h
      cases h
    exact .inr ⟨h, lookup_store_self fs other .directory hroot, rfl⟩
  · exact .inl (lookup_store_of_ne fs .directory hother)

theorem ensureDirectory_makes (fs : FileSystem) (absolute : Bool) (names : List String) :
    Makes (· = fs.reached absolute names) fs (fs.after (ensureDirectory absolute names)) := by
  rw [after, ensureDirectory]
  rcases fs.makeDirectory_cases absolute names with ⟨fault, hrun⟩ | ⟨hnone, hrun⟩
  · rw [hrun]
    dsimp only
    cases fs.isDirectory absolute names <;> exact .refl fs
  · rw [hrun]
    exact makes_store hnone

theorem Makes.reached_eq (h : Makes allowed fs fs') (absolute : Bool) (names : List String) :
    fs'.reached absolute names = fs.reached absolute names := by
  rw [reached, reached, h.current]

/-- Directories are made only where initial segments of the names lead to. -/
theorem makeDirectoriesReversed_makes (fs : FileSystem) (absolute : Bool) (reversed : List String) :
    Makes (fun location => ∃ names, names <+: reversed.reverse
        ∧ location = fs.reached absolute names)
      fs (fs.after (makeDirectoriesReversed absolute reversed)) := by
  -- The whole path is tried first, and its parents only if one of them is missing.
  induction reversed generalizing fs with
  | nil => exact .refl fs
  | cons name parents ih =>
    have hwhole {fs' : FileSystem} (h : Makes (· = fs.reached absolute (name :: parents).reverse) fs fs') :
        Makes (fun location => ∃ names, names <+: (name :: parents).reverse
          ∧ location = fs.reached absolute names) fs fs' :=
      h.mono fun location hlocation => ⟨_, List.prefix_refl _, hlocation⟩
    rw [after, makeDirectoriesReversed]
    dsimp only
    rcases fs.makeDirectory_cases absolute (name :: parents).reverse with
      ⟨fault, hrun⟩ | ⟨hnone, hrun⟩
    · rw [hrun]
      have hparents : Makes (fun location => ∃ names, names <+: (name :: parents).reverse
          ∧ location = fs.reached absolute names) fs
          (fs.after (makeDirectoriesReversed absolute parents)) := by
        refine (ih fs).mono fun location ⟨names, hnames, hlocation⟩ => ⟨names, ?_, hlocation⟩
        rw [List.reverse_cons]
        exact hnames.trans (List.prefix_append _ _)
      cases fault with
      | noEntry =>
        rw [after] at hparents
        dsimp only
        cases hrec : makeDirectoriesReversed absolute parents fs with
        | error fault fs₁ =>
          rw [hrec] at hparents
          exact hparents
        | ok u fs₁ =>
          rw [hrec] at hparents
          refine hparents.trans (Makes.mono (fs₁.ensureDirectory_makes absolute _) ?_)
          rintro location rfl
          exact ⟨_, List.prefix_refl _, hparents.reached_eq absolute _⟩
      | _ =>
        dsimp only
        cases fs.isDirectory absolute (name :: parents).reverse <;> exact .refl fs
    · rw [hrun]
      exact hwhole (makes_store hnone)

/-- Of the directories on the way to the place of a path, some are made, or all. -/
theorem makeParent_makes (fs : FileSystem) (path : Path) :
    Makes (path.IsOnWay fs.current) fs (fs.after (makeParent path)) := by
  rw [makeParent, Path.parent?]
  by_cases hempty : path.components.isEmpty = true
  · rw [if_pos hempty]
    exact .refl fs
  · rw [if_neg hempty]
    dsimp only
    by_cases hnul : path.text.toList.contains '\x00' = true
        ∧ path.components.dropLast.any (fun n => n.toList.contains '\x00') = true
    · rw [if_pos hnul]
      exact .refl fs
    · rw [if_neg hnul]
      have hmakes := fs.makeDirectoriesReversed_makes path.isAbsolute
        path.components.dropLast.reverse
      rw [List.reverse_reverse] at hmakes
      exact hmakes

end FileSystem

/-! ## Files -/

namespace FileStep

open FileSystem

variable {fs fs' : FileSystem} {path : Path} {mode : Nat} {fault : SystemFault}
  {update : Octets → Nat → Entry}

/-- A file is opened, and then is empty, or nothing happens. It keeps its mode if it was there
before. -/
theorem runOpen_cases (fs : FileSystem) (path : Path) (mode : Nat) :
    (∃ fault, runOpen path mode fs = .error fault fs)
      ∨ ∃ mode', fs.locate path = .ok (path.place fs.current) ∧ path.meansDirectory = false
        ∧ (fs.lookup (path.place fs.current) = none ∧ mode' = mode
          ∨ ∃ old, fs.lookup (path.place fs.current) = some (.file old mode'))
        ∧ runOpen path mode fs = .ok () (fs.store (path.place fs.current) (.file [] mode')) := by
  rw [runOpen, bind_get]
  cases hlocate : fs.locate path with
  | error fault => exact .inl ⟨fault, rfl⟩
  | ok location =>
    obtain rfl := locate_eq hlocate
    dsimp only
    cases hlookup : fs.lookup (path.place fs.current) with
    | none =>
      cases hm : path.meansDirectory with
      | true => exact .inl ⟨_, rfl⟩
      | false => exact .inr ⟨mode, rfl, rfl, .inl ⟨rfl, rfl⟩, rfl⟩
    | some entry =>
      cases entry with
      | directory => exact .inl ⟨_, rfl⟩
      | file old mode' =>
        cases hm : path.meansDirectory with
        | true => exact .inl ⟨_, rfl⟩
        | false => exact .inr ⟨mode', rfl, rfl, .inr ⟨old, rfl⟩, rfl⟩

theorem runOpen_eq_ok (h : runOpen path mode fs = .ok () fs') :
    ∃ mode', fs.locate path = .ok (path.place fs.current) ∧ path.meansDirectory = false
      ∧ (fs.lookup (path.place fs.current) = none ∧ mode' = mode
        ∨ ∃ old, fs.lookup (path.place fs.current) = some (.file old mode'))
      ∧ fs' = fs.store (path.place fs.current) (.file [] mode') := by
  rcases runOpen_cases fs path mode with ⟨_, hrun⟩ | ⟨mode', hl, hm, hlookup, hrun⟩
  · cases hrun.symm.trans h
  · cases hrun.symm.trans h
    exact ⟨mode', hl, hm, hlookup, rfl⟩

theorem runOpen_eq_error (h : runOpen path mode fs = .error fault fs') : fs' = fs := by
  rcases runOpen_cases fs path mode with ⟨_, hrun⟩ | ⟨_, _, _, _, hrun⟩
  · cases hrun.symm.trans h
    rfl
  · cases hrun.symm.trans h

/-- A file that is there is updated, or nothing happens. -/
theorem runUpdate_cases (fs : FileSystem) (path : Path) (update : Octets → Nat → Entry) :
    (∃ fault, runUpdate path update fs = .error fault fs)
      ∨ ∃ contents mode, fs.stat path = .ok (path.place fs.current, .file contents mode)
        ∧ runUpdate path update fs
          = .ok () (fs.store (path.place fs.current) (update contents mode)) := by
  rw [runUpdate, bind_get]
  cases hstat : fs.stat path with
  | error fault => exact .inl ⟨fault, rfl⟩
  | ok found =>
    obtain ⟨location, entry⟩ := found
    obtain rfl := locate_eq (stat_eq_ok hstat).1
    cases entry with
    | directory => exact .inl ⟨_, rfl⟩
    | file contents mode => exact .inr ⟨contents, mode, rfl, rfl⟩

theorem runUpdate_eq_ok (h : runUpdate path update fs = .ok () fs') :
    ∃ contents mode, fs.stat path = .ok (path.place fs.current, .file contents mode)
      ∧ fs' = fs.store (path.place fs.current) (update contents mode) := by
  rcases runUpdate_cases fs path update with ⟨_, hrun⟩ | ⟨contents, mode, hstat, hrun⟩
  · cases hrun.symm.trans h
  · cases hrun.symm.trans h
    exact ⟨contents, mode, hstat, rfl⟩

theorem runUpdate_eq_error (h : runUpdate path update fs = .error fault fs') : fs' = fs := by
  rcases runUpdate_cases fs path update with ⟨_, hrun⟩ | ⟨_, _, _, hrun⟩
  · cases hrun.symm.trans h
    rfl
  · cases hrun.symm.trans h

end FileStep

end Acme
