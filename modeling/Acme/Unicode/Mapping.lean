import Acme.Unicode.Data.Mapping
import Acme.Unicode.Normalization

/-!
# Mapping for host names

Characters of a host name are mapped before anything else: letters to lower case, compatible forms
to plain ones, and some characters to nothing (UTS #46, without transitional processing). The result
is then composed.

Main definitions: `mapChar?`, `mapped?` and `isStable`.
-/

namespace Acme.Unicode

/-! ## Tables -/

/-- What the characters of an entry are mapped to. -/
inductive MappingTarget
  | up (distance : Nat)
  | down (distance : Nat)
  | into (cs : List Char)

/-- An entry of the mapping: every character, or every second one, of a range. -/
structure MappingEntry where
  first : Nat
  last : Nat
  step : Nat
  target : MappingTarget

/-- The range and the step that the first part of a word denotes. -/
def rangeOfPart (part : List Char) (target : MappingTarget) : MappingEntry :=
  match part.splitOn '/' with
  | [first, last] => ⟨codePoint first, codePoint last, 2, target⟩
  | _ =>
    let (first, last) := Ranges.ofWord part
    ⟨first, last, 1, target⟩

def MappingEntry.ofWord (word : List Char) : MappingEntry :=
  let part := word.takeWhile fun c => c != '+' && c != '~' && c != '='
  match word.drop part.length with
  | '+' :: distance => rangeOfPart part (.up (codePoint distance))
  | '~' :: distance => rangeOfPart part (.down (codePoint distance))
  | '=' :: into =>
    rangeOfPart part (.into ((into.splitOn '.').map fun digits => Char.ofNat (codePoint digits)))
  | _ => rangeOfPart part (.up 0)

def mappingEntries : List MappingEntry :=
  (words mappingWords).map MappingEntry.ofWord

def ignored : Ranges :=
  Ranges.ofWords ignoredWords

/-- The characters that no host name may hold. -/
def disallowed : Ranges :=
  Ranges.ofWords disallowedWords

/-! ## The mapping -/

def MappingEntry.covers (entry : MappingEntry) (c : Char) : Bool :=
  entry.first ≤ c.toNat && c.toNat ≤ entry.last && (c.toNat - entry.first) % entry.step == 0

def MappingEntry.apply (entry : MappingEntry) (c : Char) : List Char :=
  match entry.target with
  | .up distance => [Char.ofNat (c.toNat + distance)]
  | .down distance => [Char.ofNat (c.toNat - distance)]
  | .into cs => cs

/-- What a character is mapped to; none if host names may not hold it. -/
def mapChar? (c : Char) : Option (List Char) :=
  if c.toNat < 0x80 then some [c.toLower]
  else
    match mappingEntries.find? fun entry => entry.covers c with
    | some entry => some (entry.apply c)
    | none =>
      if ignored.contains c then some []
      else if disallowed.contains c then none
      else some [c]

/-- The mapped and composed form of a name. -/
def mapped? (cs : List Char) : Option (List Char) :=
  (cs.mapM mapChar?).map fun parts => composed parts.flatten

/-- The mapping leaves the character as it is. -/
def isStable (c : Char) : Bool :=
  mapChar? c == some [c]

end Acme.Unicode
