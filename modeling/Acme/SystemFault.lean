/-!
# Faults of the operating system

The reasons for which the operating system refuses a call, with the words it has for them.

Main definitions: `SystemFault` and `SystemFault.message`.
-/

namespace Acme

/-- Why a call to the operating system failed. -/
inductive SystemFault
  | noEntry
  | exists
  | notDirectory
  | isDirectory
  | nameTooLong
  | addressInUse
  /-- A path cannot hold a NUL character. -/
  | nulInPath
  | other (words : String)
  deriving DecidableEq, Repr

def SystemFault.message : SystemFault → String
  | .noEntry => "No such file or directory (os error 2)"
  | .exists => "File exists (os error 17)"
  | .notDirectory => "Not a directory (os error 20)"
  | .isDirectory => "Is a directory (os error 21)"
  | .nameTooLong => "File name too long (os error 36)"
  | .addressInUse => "Address already in use (os error 98)"
  | .nulInPath => "file name contained an unexpected NUL byte"
  | .other words => words

end Acme
