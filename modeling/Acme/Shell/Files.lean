import Acme.Storage

/-!
# Files of the operating system

Calls on files, carried out.

Main definitions: `faultOf`, `perform`, which tells why a call was refused, and `contents`.
-/

namespace Acme.Shell

/-- The number of an error of the operating system, which may come with a minus sign. -/
def errorNumber (code : UInt32) : Nat :=
  if code < 0x80000000 then code.toNat else (0 - code).toNat

/-- A fault in the words of the operating system. -/
def namedFault (code : UInt32) (words : String) : SystemFault :=
  match errorNumber code with
  | 20 => .notDirectory
  | 21 => .isDirectory
  | 36 => .nameTooLong
  | 98 => .addressInUse
  | number => .other (words ++ " (os error " ++ toString number ++ ")")

/-- The fault that an error of the operating system reports. -/
def faultOf : IO.Error → SystemFault
  | .noFileOrDirectory .. => .noEntry
  | .alreadyExists .. => .exists
  | .inappropriateType _ code words | .permissionDenied _ code words
  | .invalidArgument _ code words | .resourceBusy code words | .otherError code words =>
    namedFault code words
  | error => .other (toString error)

/-- The permissions that three bits of a mode give. -/
def rightsOf (bits : Nat) : IO.AccessRight :=
  { read := bits.testBit 2, write := bits.testBit 1, execution := bits.testBit 0 }

def setMode (path : Path) (mode : Nat) : IO Unit :=
  IO.setAccessRights path.text
    { user := rightsOf (mode / 64), group := rightsOf (mode / 8), other := rightsOf mode }

def contents (path : Path) : IO (Except SystemFault Octets) := do
  try
    let bytes ← IO.FS.readBinFile path.text
    return .ok bytes.data.toList
  catch error => return .error (faultOf error)

/-- Opens a file for writing. A private one that is new is empty until its mode is set. -/
def openEmpty (path : Path) (mode : Nat) : IO Unit := do
  try
    discard (IO.FS.Handle.mk path.text .writeNew)
    if mode = privateMode then setMode path mode
  catch
    | .alreadyExists .. => discard (IO.FS.Handle.mk path.text .write)
    | error => throw error

def carryOut : FileStep → IO Unit
  | .makeParent path =>
    match path.parent? with
    | none | some [] => pure ()
    | some names =>
      IO.FS.createDirAll ((if path.isAbsolute then "/" else "") ++ "/".intercalate names)
  | .openEmpty path mode => openEmpty path mode
  | .append path octets => do
    let handle ← IO.FS.Handle.mk path.text .append
    handle.write ⟨octets.toArray⟩
  | .sync path => do
    let handle ← IO.FS.Handle.mk path.text .append
    handle.flush
  | .setMode path mode => setMode path mode

/-- Carries out a call and tells why it was refused, if it was. -/
def perform (step : FileStep) : IO (Option SystemFault) := do
  try
    carryOut step
    return none
  catch error => return some (faultOf error)

end Acme.Shell
