import Acme.Session

/-!
# Key and certificate files

Private keys are written so that nobody but the owner can read them at any time: a new file is
opened with mode 0600, an old one is emptied first, and the mode is set in the end. The files of a
certificate lie side by side in one directory and are named after the primary domain.

Main definitions: `privateSteps`, `publicSteps`, `loadAccountKey`, `saveAccountKey` and `Storage`.
-/

namespace Acme

open Session

/-! ## Writing -/

/-- The mode of private files: for the owner only. -/
def privateMode : Nat := 0o600

def publicMode : Nat := 0o644

def privateSteps (path : Path) (contents : String) : List FileStep :=
  [.makeParent path, .openEmpty path privateMode, .append path (Octets.ofText contents),
    .sync path, .setMode path privateMode]

def publicSteps (path : Path) (contents : String) : List FileStep :=
  [.makeParent path, .openEmpty path publicMode, .append path (Octets.ofText contents)]

def writePrivate (path : Path) (contents : String) : Action StorageError Unit :=
  orFail (changeAll (privateSteps path contents)) .io

def writePublic (path : Path) (contents : String) : Action StorageError Unit :=
  orFail (changeAll (publicSteps path contents)) .io

/-! ## The account key -/

/-- The text of the account key file; none when nothing is there. -/
def storedKey (files : FileSystem) (path : Path) : Except StorageError (Option String) :=
  if files.exists? path then
    match files.read path with
    | .error fault => .error (.io fault)
    | .ok octets =>
      match Octets.text? octets with
      | none => .error (.notText path)
      | some text => .ok (some text)
  else .ok none

/-- Loads the account key; none when nothing is there. -/
def loadAccountKey (path : Path) : Action StorageError (Option String) := do
  match storedKey (← get).files path with
  | .error error => throw error
  | .ok pem => return pem

def saveAccountKey (path : Path) (pem : String) : Action StorageError Unit := do
  writePrivate path pem
  log .info "Saved account key" [("path", .shown path.text)]

/-! ## The files of a certificate -/

/-- Where the files of a certificate are written. -/
structure Storage where
  directory : Path
  deriving DecidableEq, Repr

namespace Storage

def keyPath (storage : Storage) (primary : String) : Path :=
  storage.directory.join (primary ++ "_key.pem")

def certPath (storage : Storage) (primary : String) : Path :=
  storage.directory.join (primary ++ "_crt.pem")

def intermediatePath (storage : Storage) : Path :=
  storage.directory.join "intermediate_crt.pem"

/-- Writes the private key and returns its path. -/
def writeKey (storage : Storage) (primary pem : String) : Action StorageError Path := do
  let path := storage.keyPath primary
  writePrivate path pem
  log .info "Saved certificate private key" [("path", .shown path.text)]
  return path

def writeCertificate (storage : Storage) (primary pem : String) : Action StorageError Path := do
  let path := storage.certPath primary
  writePublic path pem
  log .info "Saved certificate" [("path", .shown path.text)]
  return path

/-- Writes the issuer certificate and returns its path. -/
def writeIntermediate (storage : Storage) (pem : String) : Action StorageError Path := do
  let path := storage.intermediatePath
  writePublic path pem
  log .info "Saved intermediate certificate" [("path", .shown path.text)]
  return path

end Storage

end Acme
