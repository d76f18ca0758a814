import Acme.Octets

/-!
# Internet addresses

IPv4 addresses in dotted decimal notation and IPv6 addresses in the notation of RFC 4291, read
strictly: no leading zeros in a decimal part, at most four hexadecimal digits in a group, no zone.
An address is written with the longest run of zero groups cut out.

Main definitions: `IpAddress.parse?` and `IpAddress.octets`, `Endpoint.parse?` and
`Endpoint.render`.
-/

namespace Acme

/-- An IPv4 address of four octets or an IPv6 address of eight groups of 16 bits. -/
inductive IpAddress
  | v4 (a b c d : UInt8)
  | v6 (groups : List UInt16)
  deriving DecidableEq, Repr

namespace IpAddress

/-! ## Numbers -/

/-- The value of a digit to base 16. -/
def hexValue? (c : Char) : Option Nat :=
  let n := c.toNat
  if 48 ≤ n ∧ n ≤ 57 then some (n - 48)
  else if 97 ≤ n ∧ n ≤ 102 then some (n - 87)
  else if 65 ≤ n ∧ n ≤ 70 then some (n - 55)
  else none

/-- The value of a nonempty list of decimal digits. -/
def decimal? (cs : List Char) : Option Nat :=
  if cs ≠ [] ∧ cs.all Char.isDigit then
    some (cs.foldl (fun n c => n * 10 + (c.toNat - 48)) 0)
  else none

/-! ## IPv4 -/

/-- A decimal part: one to three digits, no leading zero, at most 255. -/
def part? (cs : List Char) : Option UInt8 := do
  let n ← decimal? cs
  guard (cs.length ≤ 3 ∧ n ≤ 255 ∧ (cs.head? ≠ some '0' ∨ cs.length = 1))
  return UInt8.ofNat n

def parseV4? (cs : List Char) : Option IpAddress :=
  match cs.splitOn '.' with
  | [a, b, c, d] => return .v4 (← part? a) (← part? b) (← part? c) (← part? d)
  | _ => none

/-! ## IPv6 -/

/-- A group: one to four digits to base 16. -/
def group? (cs : List Char) : Option UInt16 := do
  guard (1 ≤ cs.length ∧ cs.length ≤ 4)
  let digits ← cs.mapM hexValue?
  return UInt16.ofNat (digits.foldl (fun n d => n * 16 + d) 0)

/-- The groups of a list of pieces; where `ending`, the last piece may be an IPv4 address, which
stands for two groups. -/
def groups? (ending : Bool) : List (List Char) → Option (List UInt16)
  | [] => some []
  | [piece] =>
    match if ending then parseV4? piece else none with
    | some (.v4 a b c d) =>
      some [a.toUInt16 * 256 + b.toUInt16, c.toUInt16 * 256 + d.toUInt16]
    | _ => return [← group? piece]
  | piece :: rest => return (← group? piece) :: (← groups? ending rest)

/-- The text before and after the first double colon. -/
def cutDoubleColon? : List Char → Option (List Char × List Char)
  | ':' :: ':' :: rest => some ([], rest)
  | c :: rest => (cutDoubleColon? rest).map fun (before, after) => (c :: before, after)
  | [] => none

/-- The pieces between colons; an empty text has none. -/
def pieces (cs : List Char) : List (List Char) :=
  if cs.isEmpty then [] else cs.splitOn ':'

/-- Eight groups, or fewer around a double colon that stands for the missing ones. -/
def parseV6? (cs : List Char) : Option IpAddress :=
  match cutDoubleColon? cs with
  | none => do
    let groups ← groups? true (pieces cs)
    guard (groups.length = 8)
    return .v6 groups
  | some (before, after) => do
    let left ← groups? false (pieces before)
    let right ← groups? true (pieces after)
    guard (left.length + right.length ≤ 7)
    return .v6 (left ++ List.replicate (8 - left.length - right.length) 0 ++ right)

def parse? (text : String) : Option IpAddress :=
  parseV4? text.toList <|> parseV6? text.toList

def octets : IpAddress → Octets
  | .v4 a b c d => [a, b, c, d]
  | .v6 groups => groups.flatMap fun (g : UInt16) => [(g >>> 8).toUInt8, g.toUInt8]

/-! ## Writing -/

/-- The longest run of zero groups, the first of several: where it starts and how long it is. -/
def longestZeroRun (groups : List UInt16) : Nat × Nat :=
  let runs := (List.range groups.length).map fun i => (i, (groups.drop i).takeWhile (· == 0))
  runs.foldl (fun best run => if best.2 < run.2.length then (run.1, run.2.length) else best) (0, 0)

/-- Groups to base 16, joined by colons. -/
def joinGroups (groups : List UInt16) : String :=
  ":".intercalate (groups.map fun g => String.ofList (Nat.toDigits 16 g.toNat))

/-- The shortest notation of an IPv6 address: a run of at least two zero groups is cut out. -/
def renderV6 (groups : List UInt16) : String :=
  let (start, count) := longestZeroRun groups
  if count < 2 then joinGroups groups
  else joinGroups (groups.take start) ++ "::" ++ joinGroups (groups.drop (start + count))

def renderV4 (a b c d : UInt8) : String :=
  ".".intercalate ([a, b, c, d].map fun n => toString n.toNat)

def render : IpAddress → String
  | .v4 a b c d => renderV4 a b c d
  | .v6 groups =>
    match groups with
    | [0, 0, 0, 0, 0, 0xFFFF, g, h] =>
      "::ffff:" ++ renderV4 (g >>> 8).toUInt8 g.toUInt8 (h >>> 8).toUInt8 h.toUInt8
    | _ => renderV6 groups

end IpAddress

/-- An address and a port. -/
structure Endpoint where
  address : IpAddress
  port : UInt16
  deriving DecidableEq, Repr

namespace Endpoint

/-- A port number of at most five digits and at most 65535. -/
def port? (cs : List Char) : Option UInt16 := do
  let n ← IpAddress.decimal? cs
  guard (n ≤ 65535)
  return UInt16.ofNat n

/-- An IPv4 address, or an IPv6 address in brackets, and a port after a colon. -/
def parse? (text : String) : Option Endpoint :=
  match text.toList with
  | '[' :: rest =>
    match rest.splitOn ']' with
    | [address, ':' :: port] =>
      return ⟨← IpAddress.parseV6? address, ← port? port⟩
    | _ => none
  | cs =>
    match cs.splitOn ':' with
    | [address, port] => return ⟨← IpAddress.parseV4? address, ← port? port⟩
    | _ => none

def render (endpoint : Endpoint) : String :=
  match endpoint.address with
  | .v4 .. => endpoint.address.render ++ ":" ++ toString endpoint.port.toNat
  | .v6 _ => "[" ++ endpoint.address.render ++ "]:" ++ toString endpoint.port.toNat

end Endpoint

end Acme
