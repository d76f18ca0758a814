/-!
# Octets

Octet strings as lists of bytes, their reading as big-endian numbers, and text as its UTF-8
octets.

Main definitions: `toNat` and `ofNat` (the shortest big-endian form), `ofNatPadded` (a form of
given length), `ofText` and `text?`.
-/

namespace Acme

abbrev Octets := List UInt8

/-- The number of binary digits of `n`; zero has none. -/
def bitLength (n : Nat) : Nat :=
  if n = 0 then 0 else n.log2 + 1

namespace Octets

/-! ## Numbers -/

/-- The number whose digits to base 256 are the octets, most significant first. -/
def toNat (bytes : Octets) : Nat :=
  bytes.foldl (fun n b => n * 256 + b.toNat) 0

/-- The lowest `length` digits of `n` to base 256, least significant first. -/
def littleEndian : (length : Nat) → (n : Nat) → Octets
  | 0, _ => []
  | length + 1, n => UInt8.ofNat (n % 256) :: littleEndian length (n / 256)

/-- The lowest `length` digits of `n` to base 256, most significant first. -/
def ofNatPadded (length n : Nat) : Octets :=
  (littleEndian length n).reverse

/-- The number of octets of the shortest big-endian form of `n`; zero has one octet. -/
def lengthOfNat (n : Nat) : Nat :=
  if n = 0 then 1 else n.log2 / 8 + 1

/-- The shortest big-endian form of `n`. -/
def ofNat (n : Nat) : Octets :=
  ofNatPadded (lengthOfNat n) n

/-! ## Text -/

def ofText (text : String) : Octets :=
  text.toUTF8.data.toList

/-- The UTF-8 octets of a list of characters. -/
def ofChars (cs : List Char) : Octets :=
  ofText (String.ofList cs)

/-- The text whose UTF-8 octets these are, if they are well-formed. -/
def text? (bytes : Octets) : Option String :=
  String.fromUTF8? ⟨⟨bytes⟩⟩

end Octets

end Acme
