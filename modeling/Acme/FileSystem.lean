import Acme.Association
import Acme.Octets
import Acme.SystemFault

/-!
# File system

Paths as text, and a tree of directories and files under one root. A location is the list of names
that leads to it from the root. Every call walks its path as the operating system does, so that a
missing directory, a file in the place of a directory and a name that is too long are told apart.

Main definitions: `Path` with `Path.join` and `Path.parent?`, `FileSystem` with `lookup` and
`store`, and the calls `exists?`, `read` and `FileStep.run`.
-/

namespace Acme

/-! ## Paths -/

/-- A path as it was written. -/
structure Path where
  text : String
  deriving DecidableEq, Repr

namespace Path

def isAbsolute (path : Path) : Bool :=
  path.text.toList.head? == some '/'

/-- The names on the way, without empty ones and without `.`. -/
def components (path : Path) : List String :=
  ((path.text.toList.splitOn '/').map String.ofList).filter fun c => c ≠ "" ∧ c ≠ "."

/-- The path says that it means a directory. -/
def meansDirectory (path : Path) : Bool :=
  match (path.text.toList.splitOn '/').getLast? with
  | some last => last == [] || last == ['.']
  | none => false

def endsInSlash (path : Path) : Bool :=
  path.text.toList.getLast? == some '/'

/-- `name` below `base`; an absolute name takes the place of the base. -/
def join (base : Path) (name : String) : Path :=
  if (Path.mk name).isAbsolute then ⟨name⟩
  else if base.text = "" ∨ base.text.toList.getLast? = some '/' then ⟨base.text ++ name⟩
  else ⟨base.text ++ "/" ++ name⟩

/-- The components of the directory that the path lies in; none for the root and the empty path. -/
def parent? (path : Path) : Option (List String) :=
  if path.components.isEmpty then none else some path.components.dropLast

end Path

/-! ## The tree -/

/-- What a location holds. -/
inductive Entry
  | file (contents : Octets) (mode : Nat)
  | directory
  deriving DecidableEq, Repr

/-- A location: the names from the root on. -/
abbrev Location := List String

/-- The tree of files, and the directory that relative paths start from. -/
structure FileSystem where
  entries : List (Location × Entry) := []
  current : Location := []
  deriving DecidableEq, Repr

namespace FileSystem

/-- What a location holds; the root is a directory. -/
def lookup (fs : FileSystem) (location : Location) : Option Entry :=
  if location = [] then some .directory else fs.entries.lookup location

/-- The tree with `entry` at a location. -/
def store (fs : FileSystem) (location : Location) (entry : Entry) : FileSystem :=
  { fs with entries := (location, entry) :: fs.entries.filter fun e => e.1 ≠ location }

@[simp]
theorem lookup_store_self (fs : FileSystem) (location : Location) (entry : Entry)
    (h : location ≠ []) : (fs.store location entry).lookup location = some entry := by
  simp [lookup, store, h]

theorem lookup_store_of_ne (fs : FileSystem) {location other : Location} (entry : Entry)
    (h : other ≠ location) : (fs.store location entry).lookup other = fs.lookup other := by
  by_cases hr : other = []
  · simp [lookup, hr]
  · simp only [lookup, hr, if_false, store, List.lookup_cons, beq_false_of_ne h]
    exact lookup_filter_of_ne h fs.entries

/-- An action on the tree, which may fail. -/
abbrev Action (α : Type) := EStateM SystemFault FileSystem α

/-! ## Walking a path -/

/-- The most octets that a name may have. -/
def maxNameLength : Nat := 255

/-- The most octets that a path may have. -/
def maxPathLength : Nat := 4095

/-- One step from a directory: `..` leads to the parent, any other name to the child. -/
def stepTo (location : Location) (name : String) : Except SystemFault Location :=
  if name = ".." then .ok location.dropLast
  else if maxNameLength < name.utf8ByteSize then .error .nameTooLong
  else .ok (location ++ [name])

/-- Walks names from a directory; all but the last one must lead to directories. -/
def walk (fs : FileSystem) (location : Location) : List String → Except SystemFault Location
  | [] => .ok location
  | [name] => stepTo location name
  | name :: rest =>
    match stepTo location name with
    | .error fault => .error fault
    | .ok next =>
      match fs.lookup next with
      | some .directory => walk fs next rest
      | some (.file _ _) => .error .notDirectory
      | none => .error .noEntry

/-- The location that a path leads to, whether or not anything is there. -/
def locate (fs : FileSystem) (path : Path) : Except SystemFault Location :=
  if path.text.toList.contains '\x00' then .error .nulInPath
  else if path.text = "" then .error .noEntry
  else if maxPathLength < path.text.utf8ByteSize then .error .nameTooLong
  else fs.walk (if path.isAbsolute then [] else fs.current) path.components

/-! ## Calls that only look -/

def stat (fs : FileSystem) (path : Path) : Except SystemFault (Location × Entry) :=
  match fs.locate path with
  | .error fault => .error fault
  | .ok location =>
    match fs.lookup location with
    | none => .error .noEntry
    | some (.file contents mode) =>
      if path.meansDirectory then .error .notDirectory
      else .ok (location, .file contents mode)
    | some .directory => .ok (location, .directory)

def exists? (fs : FileSystem) (path : Path) : Bool :=
  match fs.stat path with
  | .ok _ => true
  | .error _ => false

def read (fs : FileSystem) (path : Path) : Except SystemFault Octets :=
  match fs.stat path with
  | .error fault => .error fault
  | .ok (_, .directory) => .error .isDirectory
  | .ok (_, .file contents _) => .ok contents

/-! ## Directories -/

/-- The location that names lead to from where a path starts. -/
def locateNames (fs : FileSystem) (absolute : Bool) (names : List String) :
    Except SystemFault Location :=
  fs.walk (if absolute then [] else fs.current) names

def isDirectory (fs : FileSystem) (absolute : Bool) (names : List String) : Bool :=
  match fs.locateNames absolute names with
  | .ok location => fs.lookup location == some .directory
  | .error _ => false

/-- Makes one directory; its parent must be there. -/
def makeDirectory (absolute : Bool) (names : List String) : Action Unit := do
  let fs ← get
  match fs.locateNames absolute names with
  | .error fault => throw fault
  | .ok location =>
    if (fs.lookup location).isSome then throw .exists
    else set (fs.store location .directory)

def ensureDirectory (absolute : Bool) (names : List String) : Action Unit := fun fs =>
  match makeDirectory absolute names fs with
  | .ok () fs => .ok () fs
  | .error fault fs => if fs.isDirectory absolute names then .ok () fs else .error fault fs

/-- Makes a directory and those on the way to it that are missing. The names come last one
first. -/
def makeDirectoriesReversed (absolute : Bool) : (reversed : List String) → Action Unit
  | [] => pure ()
  | name :: parents => fun fs =>
    let names := (name :: parents).reverse
    match makeDirectory absolute names fs with
    | .ok () fs => .ok () fs
    | .error .noEntry fs =>
      match makeDirectoriesReversed absolute parents fs with
      | .ok () fs => ensureDirectory absolute names fs
      | .error fault fs => .error fault fs
    | .error fault fs => if fs.isDirectory absolute names then .ok () fs else .error fault fs

/-- Makes a directory and those on the way to it that are missing. -/
def makeDirectories (absolute : Bool) (names : List String) : Action Unit :=
  makeDirectoriesReversed absolute names.reverse

/-- Makes the directory that a path lies in. -/
def makeParent (path : Path) : Action Unit :=
  match path.parent? with
  | none => pure ()
  | some names =>
    if path.text.toList.contains '\x00' ∧ names.any (fun n => n.toList.contains '\x00') then
      throw .nulInPath
    else makeDirectories path.isAbsolute names

end FileSystem

/-! ## Files -/

/-- One call that changes the tree. -/
inductive FileStep
  /-- Makes the directory that the path lies in, and those on the way to it. -/
  | makeParent (path : Path)
  /-- Opens the file for writing: an existing one loses its contents and keeps its mode, a new one
  gets `mode`. -/
  | openEmpty (path : Path) (mode : Nat)
  /-- Writes octets at the end of the file. -/
  | append (path : Path) (octets : Octets)
  /-- Waits until what was written is on the disk. -/
  | sync (path : Path)
  /-- Changes the mode. -/
  | setMode (path : Path) (mode : Nat)
  deriving DecidableEq, Repr

namespace FileStep

open FileSystem

/-- Why a path that means a directory cannot be opened for writing. A slash at the end is refused
before anything is looked for. -/
def openFault (path : Path) (otherwise : SystemFault) : SystemFault :=
  if path.endsInSlash then .isDirectory else otherwise

def runOpen (path : Path) (mode : Nat) : Action Unit := do
  let fs ← get
  match fs.locate path with
  | .error fault => throw fault
  | .ok location =>
    match fs.lookup location with
    | some .directory => throw .isDirectory
    | some (.file _ mode) =>
      if path.meansDirectory then throw (openFault path .notDirectory)
      else set (fs.store location (.file [] mode))
    | none =>
      if path.meansDirectory then throw (openFault path .noEntry)
      else set (fs.store location (.file [] mode))

/-- Replaces a file by a function of its contents and mode. -/
def runUpdate (path : Path) (update : Octets → Nat → Entry) : Action Unit := do
  let fs ← get
  match fs.stat path with
  | .error fault => throw fault
  | .ok (_, .directory) => throw .isDirectory
  | .ok (location, .file contents mode) => set (fs.store location (update contents mode))

def run : FileStep → Action Unit
  | .makeParent path => FileSystem.makeParent path
  | .openEmpty path mode => runOpen path mode
  | .append path octets => runUpdate path fun contents mode => .file (contents ++ octets) mode
  | .sync path => runUpdate path fun contents mode => .file contents mode
  | .setMode path mode => runUpdate path fun contents _ => .file contents mode

end FileStep

end Acme
