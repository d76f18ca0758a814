import Acme.Unicode.Data.Direction
import Acme.Unicode.Ranges

/-!
# Direction of labels

Labels of a host name with letters that run from right to left must not be able to look like
something else (RFC 5893).

Main definitions: `Direction.ofChar` and `Direction.labelIsSound`.
-/

namespace Acme.Unicode

/-- The bidirectional class of a character, as far as labels may hold it. -/
inductive Direction
  | leftToRight
  | rightToLeft
  | arabicLetter
  | arabicNumber
  | europeanNumber
  | europeanSeparator
  | commonSeparator
  | europeanTerminator
  | otherNeutral
  | boundaryNeutral
  | nonspacingMark
  | formatting
  deriving DecidableEq, Repr

namespace Direction

def table : List (Direction × Ranges) :=
  [(.rightToLeft, rightToLeftWords), (.arabicLetter, arabicLetterWords),
    (.arabicNumber, arabicNumberWords), (.europeanNumber, europeanNumberWords),
    (.europeanSeparator, europeanSeparatorWords), (.commonSeparator, commonSeparatorWords),
    (.europeanTerminator, europeanTerminatorWords), (.otherNeutral, otherNeutralWords),
    (.boundaryNeutral, boundaryNeutralWords), (.nonspacingMark, nonspacingMarkWords),
    (.formatting, formattingWords)].map fun (d, text) => (d, Ranges.ofWords text)

def ofChar (c : Char) : Direction :=
  match table.find? fun (_, ranges) => ranges.contains c with
  | some (d, _) => d
  | none => .leftToRight

/-- The class makes a host name subject to the rule. -/
def isRightToLeft (d : Direction) : Bool :=
  d == .rightToLeft || d == .arabicLetter || d == .arabicNumber

/-- The class may stand anywhere in a label. -/
def isNeutral (d : Direction) : Bool :=
  [.europeanNumber, .europeanSeparator, .commonSeparator, .europeanTerminator, .otherNeutral,
    .boundaryNeutral, .nonspacingMark].contains d

/-- The last class of a label that is no mark. -/
def last? (label : List Direction) : Option Direction :=
  (label.reverse.dropWhile (· == .nonspacingMark)).head?

/-- A label that starts with a right-to-left letter: nothing that runs from left to right, a letter
or a number at the end, and numbers of one kind only. -/
def rightToLeftIsSound (label : List Direction) : Bool :=
  (label.all fun d => d.isRightToLeft || d.isNeutral)
    && (match last? label with
      | some d => d.isRightToLeft || d == .europeanNumber
      | none => false)
    && !(label.contains .europeanNumber && label.contains .arabicNumber)

/-- A label that starts with a left-to-right letter: nothing that runs from right to left, and a
letter or a number at the end. -/
def leftToRightIsSound (label : List Direction) : Bool :=
  (label.all fun d => d == .leftToRight || d.isNeutral)
    && (match last? label with
      | some d => d == .leftToRight || d == .europeanNumber
      | none => false)

/-- The rule for a label of a name with right-to-left characters; an empty label is sound. -/
def labelIsSound (label : List Char) : Bool :=
  match label.map ofChar with
  | [] => true
  | d :: rest =>
    if d == .rightToLeft || d == .arabicLetter then rightToLeftIsSound (d :: rest)
    else d == .leftToRight && leftToRightIsSound (d :: rest)

def nameIsRightToLeft (name : List Char) : Bool :=
  name.any fun c => decide (0x80 ≤ c.toNat) && (ofChar c).isRightToLeft

end Direction

end Acme.Unicode
