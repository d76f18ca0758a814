/-!
# Numbers on a command line

Reads decimal numbers within bounds, and says why a text is none.

Main definitions: `NumberFault`, `natural?` and `integer?`.
-/

namespace Acme.CommandLine

/-- Why a text is no number. -/
inductive NumberFault
  | empty
  | digit
  | tooLarge
  | tooSmall
  /-- The number is outside the bounds of its meaning. -/
  | outside (n : Int) (low high : Nat)
  deriving DecidableEq, Repr

def NumberFault.message : NumberFault → String
  | .empty => "cannot parse integer from empty string"
  | .digit => "invalid digit found in string"
  | .tooLarge => "number too large to fit in target type"
  | .tooSmall => "number too small to fit in target type"
  | .outside n low high => toString n ++ " is not in " ++ toString low ++ "..=" ++ toString high

/-- Reads digits behind a number that has been read; past `most` it fails at once. -/
def digits (most : Nat) (past : NumberFault) : Nat → List Char → Except NumberFault Nat
  | n, [] => .ok n
  | n, c :: rest =>
    if ¬ c.isDigit then .error .digit
    else
      let next := 10 * n + (c.toNat - '0'.toNat)
      if most < next then .error past else digits most past next rest

def magnitude (most : Nat) (past : NumberFault) (cs : List Char) : Except NumberFault Nat :=
  if cs = [] then .error .digit else digits most past 0 cs

def maxNatural : Nat := 0xFFFFFFFFFFFFFFFF

/-- The greatest number of 64 bits of which one is for the sign. -/
def maxInteger : Nat := 0x7FFFFFFFFFFFFFFF

/-- Reads a natural number of at most 64 bits; a plus sign may go before it. -/
def natural? (text : String) : Except NumberFault Nat :=
  match text.toList with
  | [] => .error .empty
  | '+' :: rest => magnitude maxNatural .tooLarge rest
  | cs => magnitude maxNatural .tooLarge cs

/-- Reads an integer of at most 64 bits; a sign may go before it. -/
def integer? (text : String) : Except NumberFault Int :=
  match text.toList with
  | [] => .error .empty
  | '+' :: rest => (magnitude maxInteger .tooLarge rest).map Int.ofNat
  | '-' :: rest => (magnitude (maxInteger + 1) .tooSmall rest).map fun n => -Int.ofNat n
  | cs => (magnitude maxInteger .tooLarge cs).map Int.ofNat

def between? (low high : Nat) (text : String) : Except NumberFault Nat := do
  let n ← integer? text
  if low ≤ n ∧ n ≤ high then return n.toNat else throw (.outside n low high)

end Acme.CommandLine
