import Acme.Octets

/-!
# DER

The distinguished encoding rules of ASN.1, as far as keys and certificate requests need them: an
element is a tag octet, a length and a content. Reading accepts minimal lengths and minimal
integers only.

Main definitions: `element` and its reader `readElement?`, `natural` and its reader
`readNatural?`.
-/

namespace Acme.Der

/-! ## Tags -/

def integerTag : UInt8 := 0x02

def bitStringTag : UInt8 := 0x03

def octetStringTag : UInt8 := 0x04

def nullTag : UInt8 := 0x05

def objectIdentifierTag : UInt8 := 0x06

def utf8StringTag : UInt8 := 0x0C

def sequenceTag : UInt8 := 0x30

def setTag : UInt8 := 0x31

/-- The greatest number of octets that are read or written at once. -/
def maxLength : Nat := 0x0FFFFFFF

/-! ## Writing -/

/-- The length octets: one octet below 128, else the number of octets and the octets. -/
def lengthOctets (n : Nat) : Octets :=
  if n < 0x80 then [UInt8.ofNat n]
  else
    let digits := Octets.ofNat n
    UInt8.ofNat (0x80 + digits.length) :: digits

/-- Tag, length and content. -/
def element (tag : UInt8) (content : Octets) : Octets :=
  tag :: lengthOctets content.length ++ content

/-- A SEQUENCE of elements that are already encoded. -/
def sequence (parts : List Octets) : Octets :=
  element sequenceTag parts.flatten

/-- A SET of elements that are already encoded. -/
def set (parts : List Octets) : Octets :=
  element setTag parts.flatten

/-- A non-negative INTEGER: a zero octet keeps the sign bit clear. -/
def natural (n : Nat) : Octets :=
  let digits := Octets.ofNat n
  element integerTag (if digits.headD 0 < 0x80 then digits else 0 :: digits)

def null : Octets :=
  element nullTag []

def bitString (content : Octets) : Octets :=
  element bitStringTag (0 :: content)

/-! ## Reading -/

/-- Reads the length octets; lengths of 2^28 and more are refused. -/
def readLength? : Octets → Option (Nat × Octets)
  | [] => none
  | first :: rest =>
    if first < 0x80 then some (first.toNat, rest)
    else
      let count := first.toNat - 0x80
      let digits := rest.take count
      let n := Octets.toNat digits
      if 1 ≤ count ∧ count ≤ 4 ∧ digits.length = count ∧ n < 0x10000000
          ∧ lengthOctets n = first :: digits then
        some (n, rest.drop count)
      else none

/-- Reads one element: its tag, its content and the octets after it. -/
def readElement? : Octets → Option (UInt8 × Octets × Octets)
  | [] => none
  | tag :: rest => do
    let (n, rest) ← readLength? rest
    guard (n ≤ rest.length)
    return (tag, rest.take n, rest.drop n)

/-- Reads an element with this tag: its content and the octets after it. -/
def readTagged? (tag : UInt8) (bytes : Octets) : Option (Octets × Octets) := do
  let (found, content, rest) ← readElement? bytes
  guard (found = tag)
  return (content, rest)

/-- The number that the content of an INTEGER stands for, if it is minimal and not negative. -/
def naturalOfContent? : Octets → Option Nat
  | [] => none
  | [b] => if b < 0x80 then some b.toNat else none
  | a :: b :: rest =>
    if a = 0 then
      if b < 0x80 then none else some (Octets.toNat (b :: rest))
    else if a < 0x80 then some (Octets.toNat (a :: b :: rest))
    else none

def readNatural? (bytes : Octets) : Option (Nat × Octets) := do
  let (content, rest) ← readTagged? integerTag bytes
  return (← naturalOfContent? content, rest)

/-- Reads `count` non-negative INTEGERs. -/
def readNaturals? : (count : Nat) → Octets → Option (List Nat × Octets)
  | 0, bytes => some ([], bytes)
  | count + 1, bytes => do
    let (n, rest) ← readNatural? bytes
    let (more, rest) ← readNaturals? count rest
    return (n :: more, rest)

/-- The content of the one element with this tag that the octets consist of. -/
def whole? (tag : UInt8) (bytes : Octets) : Option Octets := do
  guard (bytes.length ≤ maxLength)
  let (content, rest) ← readTagged? tag bytes
  guard (rest = [])
  return content

end Acme.Der
