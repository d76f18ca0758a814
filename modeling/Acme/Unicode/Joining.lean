import Acme.Unicode.Data.Joining
import Acme.Unicode.Normalization

/-!
# Joiners

The two zero-width joiners may stand in a label only where they make a visible difference: behind a
virama, and the non-joiner also between letters that would join (RFC 5892, appendix A).

Main definition: `joinersAreSound`.
-/

namespace Acme.Unicode

def joiner : Char := '\u200D'

def nonJoiner : Char := '\u200C'

def viramaClass : Nat := 9

def transparent : Ranges := Ranges.ofWords transparentWords

/-- Characters that join to the left of what follows. -/
def joinsForward : Ranges := Ranges.ofWords leftJoiningWords ++ Ranges.ofWords dualJoiningWords

/-- Characters that join to the right of what comes before. -/
def joinsBackward : Ranges := Ranges.ofWords rightJoiningWords ++ Ranges.ofWords dualJoiningWords

/-- The first character that is not passed over lies in the ranges. -/
def nextJoins (ranges : Ranges) (cs : List Char) : Bool :=
  match cs.dropWhile transparent.contains with
  | c :: _ => ranges.contains c
  | [] => false

/-- Every joiner of the rest of a label is sound; `before` is the part before it, last character
first. -/
def joinersAreSoundAfter (before : List Char) : List Char → Bool
  | [] => true
  | c :: rest =>
    let afterVirama := before.head?.any fun b => combiningClass b == viramaClass
    (if c = joiner then afterVirama
      else if c = nonJoiner then
        afterVirama || (nextJoins joinsForward before && nextJoins joinsBackward rest)
      else true)
      && joinersAreSoundAfter (c :: before) rest

def joinersAreSound (label : List Char) : Bool :=
  joinersAreSoundAfter [] label

end Acme.Unicode
