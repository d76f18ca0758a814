import Acme.HostName
import Acme.Net.Address

/-!
# Hosts of URLs

A host is a name, an IPv4 address in any of its notations, or an IPv6 address in brackets. Names of
URLs with a scheme of the web are brought into ASCII, and one whose last label is a number must be
an address.

Main definitions: `Url.Host`, `Host.parse?`, `Host.parseOpaque?` and `Host.render`.
-/

namespace Acme.Url

/-! ## Percent encoding -/

/-- A digit to base 16, in upper case. -/
def upperHexDigit (n : Nat) : Char :=
  if n < 10 then Char.ofNat (n + 48) else Char.ofNat (n + 55)

/-- An octet as a percent sign and two digits. -/
def escapeOctet (b : UInt8) : List Char :=
  ['%', upperHexDigit (b.toNat / 16), upperHexDigit (b.toNat % 16)]

def isControlOrWide (c : Char) : Bool :=
  c.toNat < 0x20 || 0x7F ≤ c.toNat

/-- Escapes the octets of the characters that are controls, beyond ASCII, or in `extra`. -/
def percentEncode (extra : List Char) (cs : List Char) : List Char :=
  cs.flatMap fun c =>
    if isControlOrWide c || extra.contains c then (Octets.ofChars [c]).flatMap escapeOctet else [c]

/-- Reads escapes as the octets that they stand for. -/
def percentDecode : List Char → Octets
  | '%' :: a :: b :: rest =>
    match IpAddress.hexValue? a, IpAddress.hexValue? b with
    | some high, some low => UInt8.ofNat (high * 16 + low) :: percentDecode rest
    | _, _ => Octets.ofChars ['%'] ++ percentDecode (a :: b :: rest)
  | c :: rest => Octets.ofChars [c] ++ percentDecode rest
  | [] => []

/-! ## Hosts -/

/-- The host of a URL. -/
inductive Host
  | name (text : String)
  | address (ip : IpAddress)
  deriving DecidableEq, Repr

namespace Host

/-- The value of a number of an IPv4 address: to base 16 after `0x`, to base 8 after another zero,
else to base 10. -/
def number? (cs : List Char) : Option Nat :=
  let digits? (base : Nat) (cs : List Char) : Option Nat :=
    (cs.mapM fun c => (IpAddress.hexValue? c).filter (· < base)).map fun ds =>
      ds.foldl (fun n d => n * base + d) 0
  match cs with
  | [] => none
  | '0' :: 'x' :: rest => digits? 16 rest
  | '0' :: 'X' :: rest => digits? 16 rest
  | '0' :: c :: rest => digits? 8 (c :: rest)
  | _ => digits? 10 cs

/-- The labels of a name without an empty last one. -/
def labels (name : List Char) : List (List Char) :=
  let parts := name.splitOn '.'
  if parts.getLast? = some [] then parts.dropLast else parts

/-- The last label is a number, so that the name must be an address. -/
def endsInNumber (name : List Char) : Bool :=
  match (labels name).getLast? with
  | none => false
  | some last => (last ≠ [] && last.all Char.isDigit) || (number? last).isSome

/-- The IPv4 address of one to four numbers; the last one fills what the others leave. -/
def v4? (name : List Char) : Option IpAddress := do
  let numbers ← (labels name).mapM number?
  let last ← numbers.getLast?
  let before := numbers.dropLast
  let lastBits := 8 * (4 - before.length)
  guard (numbers.length ≤ 4 ∧ before.all (· < 256) ∧ last < 1 <<< lastBits)
  let n := before.foldl (fun n d => n * 256 + d) 0 <<< lastBits + last
  return .v4 (UInt8.ofNat (n >>> 24)) (UInt8.ofNat (n >>> 16)) (UInt8.ofNat (n >>> 8))
    (UInt8.ofNat n)

def bracketed? (rest : List Char) : Option Host :=
  match rest.reverse with
  | ']' :: inside => (IpAddress.parseV6? inside.reverse).map .address
  | _ => none

/-- Characters that no host name in a URL may hold. -/
def isForbidden (c : Char) : Bool :=
  c.toNat ≤ 0x20 || c.toNat == 0x7F || "#/:<>?@[\\]^|%".toList.contains c

/-- The host of a URL of the web. -/
def parse? (cs : List Char) : Option Host :=
  match cs with
  | '[' :: rest => bracketed? rest
  | _ => do
    let text ← Octets.text? (percentDecode cs)
    let name ← HostName.toAscii? text.toList
    guard (name ≠ [] ∧ !name.any isForbidden)
    if endsInNumber name then (v4? name).map .address else some (.name (String.ofList name))

/-- The host of any other URL, which is not interpreted. -/
def parseOpaque? (cs : List Char) : Option Host :=
  match cs with
  | '[' :: rest => bracketed? rest
  | _ =>
    if cs.any fun c => "\x00\t\n\r #/:<>?@[\\]^|".toList.contains c then none
    else some (.name (String.ofList (percentEncode [] cs)))

def render : Host → String
  | .name text => text
  | .address (.v6 groups) => "[" ++ IpAddress.renderV6 groups ++ "]"
  | .address ip => ip.render

end Host

end Acme.Url
