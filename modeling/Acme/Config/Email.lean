import Acme.HostName
import Acme.Net.Address
import Acme.Text

/-!
# Email addresses

An address is a local part, an at sign and a domain. The domain is a host name, an internet address
in brackets at its end, or a name whose ASCII form is one of these.

Main definition: `Email.isValid`.
-/

namespace Acme.Email

def maxLocalLength : Nat := 64

def maxDomainLength : Nat := 255

def maxLabelLength : Nat := 63

/-- A letter or digit. The long s and the Kelvin sign differ from letters by case only. -/
def isLetterOrDigit (c : Char) : Bool :=
  Text.isAlphanumeric c || c == '\u017F' || c == '\u212A'

/-- A character that a local part may hold. -/
def isLocalChar (c : Char) : Bool :=
  isLetterOrDigit c || ".!#$%&'*+/=?^_\x60\x7b|\x7d~-".toList.contains c

/-- A label: letters, digits and hyphens, with no hyphen at either end. -/
def isLabel (label : List Char) : Bool :=
  label.length ≤ maxLabelLength && (label.all fun c => isLetterOrDigit c || c == '-')
    && label.head?.any isLetterOrDigit && label.getLast?.any isLetterOrDigit

def isHostName (domain : List Char) : Bool :=
  (domain.splitOn '.').all isLabel

/-- An internet address in brackets, at the end. -/
def endsInAddress (domain : List Char) : Bool :=
  match domain.reverse with
  | ']' :: rest =>
    let inside := rest.takeWhile fun c => (IpAddress.hexValue? c).isSome || c == ':' || c == '.'
    rest.drop inside.length |>.head?.any fun c =>
      c == '[' && (IpAddress.parse? (String.ofList inside.reverse)).isSome
  | _ => false

/-- A host name or an address in brackets. -/
def isDomain (domain : List Char) : Bool :=
  isHostName domain || endsInAddress domain

/-- The parts before and after the last at sign. -/
def cut? (cs : List Char) : Option (List Char × List Char) :=
  if '@' ∈ cs then
    let domain := (cs.reverse.takeWhile (· != '@')).reverse
    some (cs.take (cs.length - domain.length - 1), domain)
  else none

def isValid (text : String) : Bool :=
  match cut? text.toList with
  | none => false
  | some (localPart, domain) =>
    decide (localPart.length ≤ maxLocalLength) && decide (domain.length ≤ maxDomainLength)
      && !localPart.isEmpty && localPart.all isLocalChar
      && (isDomain domain || (HostName.toAscii? domain).any isDomain)

end Acme.Email
