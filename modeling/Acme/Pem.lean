import Acme.Base64

/-!
# PEM

Textual encoding of binary objects (RFC 7468): base 64 in lines of 64 characters between a line
`-----BEGIN label-----` and a line `-----END label-----`. Reading is strict about the layout, but
any of the three line ends will do, and text may stand before the first line.

Main definitions: `encode` and `decode?`.
-/

namespace Acme.Pem

/-- The number of base 64 digits in a full line. -/
def lineWidth : Nat := 64

def opening : List Char := "-----BEGIN ".toList

def closing : List Char := "-----END ".toList

def dashes : List Char := "-----".toList

/-! ## Writing -/

/-- Cuts a list into pieces of `width` characters; the last one may be shorter. -/
def chunks (width : Nat) (cs : List Char) : List (List Char) :=
  match width, cs with
  | 0, _ => []
  | _, [] => []
  | width + 1, c :: rest => (c :: rest.take width) :: chunks (width + 1) (rest.drop width)
termination_by cs.length
decreasing_by
  simp only [List.length_drop, List.length_cons]
  omega

/-- The lines of base 64 digits, each with its line feed. -/
def bodyLines (contents : Octets) : List Char :=
  (chunks lineWidth (Base64.encodePadded .standard contents)).flatMap (· ++ ['\n'])

/-- The PEM text of `contents`. -/
def encode (label : String) (contents : Octets) : String :=
  String.ofList <| opening ++ label.toList ++ dashes ++ ['\n'] ++ bodyLines contents
    ++ closing ++ label.toList ++ dashes ++ ['\n']

/-! ## Reading -/

/-- What follows the first `opening` at the start of a line; none if a NUL comes before it. -/
def afterOpening? (lineStart : Bool) (cs : List Char) : Option (List Char) :=
  match if lineStart then opening.isPrefixOf? cs else none with
  | some rest => some rest
  | none =>
    match cs with
    | [] => none
    | c :: rest => if c = '\x00' then none else afterOpening? (c == '\n') rest

/-- Drops the line end that the text starts with. -/
def dropLineEnd? : List Char → Option (List Char)
  | '\r' :: '\n' :: rest => some rest
  | '\r' :: rest => some rest
  | '\n' :: rest => some rest
  | _ => none

theorem length_lt_of_dropLineEnd? {cs rest : List Char} (h : dropLineEnd? cs = some rest) :
    rest.length < cs.length := by
  unfold dropLineEnd? at h
  split at h <;> cases h <;> simp only [List.length_cons] <;> omega

/-- Drops the line end that a reversed text starts with. -/
def dropReversedLineEnd? : List Char → Option (List Char)
  | '\n' :: '\r' :: rest => some rest
  | '\r' :: rest => some rest
  | '\n' :: rest => some rest
  | _ => none

/-- The text before the closing line: one line end may follow that line, and one comes before it. -/
def beforeClosing? (label : List Char) (cs : List Char) : Option (List Char) := do
  let reversed := cs.reverse
  let reversed := (dropReversedLineEnd? reversed).getD reversed
  let reversed ← (closing ++ label ++ dashes).reverse.isPrefixOf? reversed
  return (← dropReversedLineEnd? reversed).reverse

/-- Joins lines of `lineWidth` characters; only the last one may be shorter. -/
def joinLines? (cs : List Char) : Option (List Char) :=
  if _h : cs.length ≤ lineWidth then some cs
  else
    match _hr : dropLineEnd? (cs.drop lineWidth) with
    | none => none
    | some rest => return cs.take lineWidth ++ (← joinLines? rest)
termination_by cs.length
decreasing_by
  have hd := length_lt_of_dropLineEnd? _hr
  simp only [List.length_drop] at hd
  omega

/-- The contents of a PEM text with this label. -/
def decode? (label : String) (text : String) : Option Octets := do
  let rest ← afterOpening? true text.toList
  let rest ← (label.toList ++ dashes).isPrefixOf? rest
  let rest ← dropLineEnd? rest
  let body ← beforeClosing? label.toList rest
  Base64.decodePadded? .standard (← joinLines? body)

end Acme.Pem
