import Acme.Unicode.Data.CombiningClass
import Acme.Unicode.Data.Decomposition
import Acme.Unicode.Ranges

/-!
# Canonical composition

Two texts that look the same may be written with different characters: a letter with an accent is
one character, or a letter and a mark. The composed form (Unicode normalization form C) is the same
for both: characters are decomposed, marks put into the order of their classes, and what can be
composed is composed.

Main definitions: `combiningClass`, `decompose`, `compose` and `composed`.
-/

namespace Acme.Unicode

/-! ## Tables -/

def combiningClasses : List (Nat × Ranges) :=
  combiningClassWords.map fun (n, text) => (n, Ranges.ofWords text)

/-- The combining class of a character; zero for one that begins a cluster. -/
def combiningClass (c : Char) : Nat :=
  if c.toNat < 0x300 then 0
  else
    match combiningClasses.find? fun (_, ranges) => ranges.contains c with
    | some (n, _) => n
    | none => 0

def marks : Ranges :=
  Ranges.ofWords markWords

/-- A code point and the characters that it stands for. -/
def expansionOfWord (word : List Char) : Nat × List Char :=
  match word.splitOn '=' with
  | [source, into] =>
    (codePoint source, (into.splitOn '.').map fun digits => Char.ofNat (codePoint digits))
  | _ => (0, [])

/-- The canonical decompositions, one step each. -/
def decompositions : List (Nat × List Char) :=
  (words decompositionWords).map expansionOfWord

def compositionExclusions : Ranges :=
  Ranges.ofWords compositionExclusionWords

/-- The pairs that compose, with what they compose to. -/
def compositions : List ((Char × Char) × Char) :=
  decompositions.filterMap fun (n, parts) =>
    match parts with
    | [a, b] =>
      if compositionExclusions.contains (Char.ofNat n) then none else some ((a, b), Char.ofNat n)
    | _ => none

/-! ## Hangul syllables -/

/-- The code point of the first syllable, and of the first leading consonant, vowel and trailing
consonant less one. -/
def syllableBase : Nat := 0xAC00
def leadBase : Nat := 0x1100
def vowelBase : Nat := 0x1161
def tailBase : Nat := 0x11A7

def leadCount : Nat := 19
def vowelCount : Nat := 21
/-- The number of trailing consonants, and none. -/
def tailCount : Nat := 28

def syllableParts? (c : Char) : Option (List Char) :=
  let index := c.toNat - syllableBase
  if syllableBase ≤ c.toNat ∧ index < leadCount * vowelCount * tailCount then
    let lead := Char.ofNat (leadBase + index / (vowelCount * tailCount))
    let vowel := Char.ofNat (vowelBase + index / tailCount % vowelCount)
    let tail := index % tailCount
    some (if tail = 0 then [lead, vowel] else [lead, vowel, Char.ofNat (tailBase + tail)])
  else none

/-- The syllable that two parts make: a leading consonant and a vowel, or a syllable without
trailing consonant and such a consonant. -/
def syllableOf? (a b : Char) : Option Char :=
  let lead := a.toNat - leadBase
  let vowel := b.toNat - vowelBase
  let index := a.toNat - syllableBase
  let tail := b.toNat - tailBase
  if leadBase ≤ a.toNat ∧ lead < leadCount ∧ vowelBase ≤ b.toNat ∧ vowel < vowelCount then
    some (Char.ofNat (syllableBase + (lead * vowelCount + vowel) * tailCount))
  else if syllableBase ≤ a.toNat ∧ index < leadCount * vowelCount * tailCount
      ∧ index % tailCount = 0 ∧ tailBase < b.toNat ∧ tail < tailCount then
    some (Char.ofNat (a.toNat + tail))
  else none

/-! ## Decomposition -/

def decompositionDepth : Nat := 4

/-- What a character stands for after at most so many steps. -/
def decomposeChar : (depth : Nat) → Char → List Char
  | 0, c => [c]
  | depth + 1, c =>
    if c.toNat < 0xC0 then [c]
    else
      match syllableParts? c with
      | some parts => parts
      | none =>
        match decompositions.lookup c.toNat with
        | some parts => parts.flatMap (decomposeChar depth)
        | none => [c]

/-- Puts a mark in front of marks, behind those of lower classes. -/
def insertMark (c : Char) : List Char → List Char
  | [] => [c]
  | d :: rest =>
    if combiningClass d ≠ 0 ∧ combiningClass d < combiningClass c then d :: insertMark c rest
    else c :: d :: rest

/-- Decomposes all characters and puts marks into the order of their classes. -/
def decompose (cs : List Char) : List Char :=
  (cs.flatMap (decomposeChar decompositionDepth)).foldr insertMark []

/-! ## Composition -/

def pair? (a b : Char) : Option Char :=
  match syllableOf? a b with
  | some c => some c
  | none => compositions.lookup (a, b)

/-- Composes a character with what follows it: `skipped` are the marks since then that did not
compose, the last of them of class `lastClass`. -/
def composeFrom (start : Char) (skipped : List Char) (lastClass : Nat) : List Char → List Char
  | [] => start :: skipped
  | c :: rest =>
    match if skipped = [] ∨ lastClass < combiningClass c then pair? start c else none with
    | some joined => composeFrom joined skipped lastClass rest
    | none =>
      if combiningClass c = 0 then start :: skipped ++ composeFrom c [] 0 rest
      else composeFrom start (skipped ++ [c]) (combiningClass c) rest

/-- Composes what can be composed; marks at the start have nothing to compose with. -/
def compose : List Char → List Char
  | [] => []
  | c :: rest => if combiningClass c = 0 then composeFrom c [] 0 rest else c :: compose rest

def composed (cs : List Char) : List Char :=
  if cs.all fun c => c.toNat < 0x300 then cs else compose (decompose cs)

end Acme.Unicode
