import Acme.Octets

/-!
# Base 64

The standard and the URL-safe alphabet of RFC 4648, encoding with and without padding, and
strict decoding: unused low bits of the last digit must be zero, and nothing outside the alphabet
is skipped.

Main definitions: `encode` and `decode?` without padding, `encodePadded` and `decodePadded?` with
it, and `url`, the form used in signed requests.
-/

namespace Acme.Base64

/-- The two alphabets, which differ in the last two digits. -/
inductive Alphabet
  | standard
  | urlSafe
  deriving DecidableEq, Repr

/-! ## Digits -/

/-- The digit of value `n`, for `n` below 64. -/
def Alphabet.digit (alphabet : Alphabet) (n : Nat) : Char :=
  if n < 26 then Char.ofNat (n + 65)
  else if n < 52 then Char.ofNat (n + 71)
  else if n < 62 then Char.ofNat (n - 4)
  else match alphabet, n with
    | .standard, 62 => '+'
    | .standard, _ => '/'
    | .urlSafe, 62 => '-'
    | .urlSafe, _ => '_'

def Alphabet.value? (alphabet : Alphabet) (c : Char) : Option Nat :=
  let n := c.toNat
  if 65 ≤ n ∧ n ≤ 90 then some (n - 65)
  else if 97 ≤ n ∧ n ≤ 122 then some (n - 71)
  else if 48 ≤ n ∧ n ≤ 57 then some (n + 4)
  else match alphabet, c with
    | .standard, '+' => some 62
    | .standard, '/' => some 63
    | .urlSafe, '-' => some 62
    | .urlSafe, '_' => some 63
    | _, _ => none

/-! ## Without padding -/

/-- Four digits for every three octets; two or three for one or two octets left over. -/
def encode (alphabet : Alphabet) : Octets → List Char
  | a :: b :: c :: rest =>
    alphabet.digit (a.toNat / 4) :: alphabet.digit (a.toNat % 4 * 16 + b.toNat / 16)
      :: alphabet.digit (b.toNat % 16 * 4 + c.toNat / 64) :: alphabet.digit (c.toNat % 64)
      :: encode alphabet rest
  | [a, b] =>
    [alphabet.digit (a.toNat / 4), alphabet.digit (a.toNat % 4 * 16 + b.toNat / 16),
      alphabet.digit (b.toNat % 16 * 4)]
  | [a] => [alphabet.digit (a.toNat / 4), alphabet.digit (a.toNat % 4 * 16)]
  | [] => []

/-- The octets that `encode` turns into these digits. -/
def decode? (alphabet : Alphabet) : List Char → Option Octets
  | w :: x :: y :: z :: rest => do
    let w ← alphabet.value? w
    let x ← alphabet.value? x
    let y ← alphabet.value? y
    let z ← alphabet.value? z
    let more ← decode? alphabet rest
    return UInt8.ofNat (w * 4 + x / 16) :: UInt8.ofNat (x % 16 * 16 + y / 4)
      :: UInt8.ofNat (y % 4 * 64 + z) :: more
  | [w, x, y] => do
    let w ← alphabet.value? w
    let x ← alphabet.value? x
    let y ← alphabet.value? y
    guard (y % 4 = 0)
    return [UInt8.ofNat (w * 4 + x / 16), UInt8.ofNat (x % 16 * 16 + y / 4)]
  | [w, x] => do
    let w ← alphabet.value? w
    let x ← alphabet.value? x
    guard (x % 16 = 0)
    return [UInt8.ofNat (w * 4 + x / 16)]
  | [_] => none
  | [] => some []

/-! ## With padding -/

/-- The padding that makes the number of digits for `count` octets a multiple of four. -/
def padding (count : Nat) : List Char :=
  match count % 3 with
  | 1 => ['=', '=']
  | 2 => ['=']
  | _ => []

/-- The digits, padded to a multiple of four. -/
def encodePadded (alphabet : Alphabet) (bytes : Octets) : List Char :=
  encode alphabet bytes ++ padding bytes.length

/-- Drops the padding, which must fill the last group of four. -/
def dropPadding? : List Char → Option (List Char)
  | w :: x :: y :: z :: rest =>
    if rest = [] ∧ z = '=' then some (if y = '=' then [w, x] else [w, x, y])
    else return w :: x :: y :: z :: (← dropPadding? rest)
  | [] => some []
  | _ => none

/-- The octets that `encodePadded` turns into these characters. -/
def decodePadded? (alphabet : Alphabet) (cs : List Char) : Option Octets := do
  decode? alphabet (← dropPadding? cs)

def url (bytes : Octets) : String :=
  String.ofList (encode .urlSafe bytes)

end Acme.Base64
