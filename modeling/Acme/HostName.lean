import Acme.HostName.Punycode
import Acme.Unicode.Direction
import Acme.Unicode.Joining
import Acme.Unicode.Mapping

/-!
# Host names in ASCII

A host name may be written with the letters of any script. What stands for it is a name in ASCII:
the characters are mapped and composed, and a label with characters beyond ASCII becomes `xn--` and
its Punycode (UTS #46).

Main definitions: `HostName.labelIsSound` and `HostName.toAscii?`.
-/

namespace Acme.HostName

open Unicode

def encodedMark : List Char := ['x', 'n', '-', '-']

def isAscii (label : List Char) : Bool :=
  label.all fun c => c.toNat < 0x80

/-- A label does not begin with a mark, and its joiners are sound. -/
def labelIsSound (label : List Char) : Bool :=
  !(label.head?.any marks.contains) && joinersAreSound label

/-- The label that a label of a mapped name stands for. One in Punycode must stand for a label that
is not ASCII and that mapping leaves as it is. -/
def labelMeant? (label : List Char) : Option (List Char) :=
  if encodedMark.isPrefixOf label then do
    let meant ← Punycode.decode? (label.drop encodedMark.length)
    guard (!isAscii meant && meant.all isStable && composed meant == meant)
    return meant
  else some label

def labelToAscii (label : List Char) : List Char :=
  if isAscii label then label else encodedMark ++ Punycode.encode label

def joinLabels (labels : List (List Char)) : List Char :=
  ['.'].intercalate labels

/-- The ASCII form of a host name; none if it is no host name. -/
def toAscii? (name : List Char) : Option (List Char) := do
  let labels := (← mapped? name).splitOn '.'
  let meant ← labels.mapM labelMeant?
  guard (meant.all labelIsSound)
  if meant.any Direction.nameIsRightToLeft then guard (meant.all Direction.labelIsSound)
  return joinLabels (labels.map labelToAscii)

end Acme.HostName
