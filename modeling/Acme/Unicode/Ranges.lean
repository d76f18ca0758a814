/-!
# Ranges of code points

Tables of code points are written as words. A word is a code point to base 16, or the first and the
last one of a range with a hyphen between them.

Main definitions: `words`, `codePoint`, `Ranges.ofWords` and `Ranges.contains`.
-/

namespace Acme.Unicode

/-- The words of a table, which blanks and line ends separate. -/
def words (text : String) : List (List Char) :=
  (text.toList.splitOnP fun c => c == ' ' || c == '\n').filter fun w => !w.isEmpty

/-- The value of a digit to base 16; anything else counts as zero. -/
def digitValue (c : Char) : Nat :=
  if c.isDigit then c.toNat - 48 else if c.isUpper then c.toNat - 55 else 0

/-- The code point that digits to base 16 denote. -/
def codePoint (digits : List Char) : Nat :=
  digits.foldl (fun n c => n * 16 + digitValue c) 0

/-- A list of ranges, each with its first and last code point. -/
abbrev Ranges := List (Nat × Nat)

namespace Ranges

def ofWord (word : List Char) : Nat × Nat :=
  match word.splitOn '-' with
  | [first, last] => (codePoint first, codePoint last)
  | _ => (codePoint word, codePoint word)

def ofWords (text : String) : Ranges :=
  (words text).map ofWord

/-- The code point of a character lies in one of the ranges. -/
def contains (ranges : Ranges) (c : Char) : Bool :=
  ranges.any fun (first, last) => first ≤ c.toNat && c.toNat ≤ last

end Ranges

end Acme.Unicode
