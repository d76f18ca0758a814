/-!
# Text

Blank characters, trimming and splitting, over lists of characters. A character is blank when it
has the Unicode property White_Space (`isBlank`).

Main definitions: `trim`, `words`, and `commaSeparated`, the reading of a list of names.
-/

namespace Acme.Text

/-! ## Blank characters -/

def isBlank (c : Char) : Bool :=
  let n := c.toNat
  (0x09 ≤ n && n ≤ 0x0D) || n == 0x20 || n == 0x85 || n == 0xA0 || n == 0x1680
    || (0x2000 ≤ n && n ≤ 0x200A) || n == 0x2028 || n == 0x2029 || n == 0x202F
    || n == 0x205F || n == 0x3000

def trimStart (cs : List Char) : List Char :=
  cs.dropWhile isBlank

/-- Drops the characters at the end that satisfy `p`. -/
def dropEndWhile (p : Char → Bool) (cs : List Char) : List Char :=
  (cs.reverse.dropWhile p).reverse

def trim (cs : List Char) : List Char :=
  dropEndWhile isBlank (trimStart cs)

/-- The maximal runs of characters that are not blank. -/
def words (cs : List Char) : List (List Char) :=
  (cs.splitOnP isBlank).filter fun w => !w.isEmpty

/-! ## Letters and digits -/

def isAlphanumeric (c : Char) : Bool :=
  c.isAlphanum

def isAscii (cs : List Char) : Bool :=
  cs.all fun c => c.toNat < 0x80

/-- ASCII letters in lower case, all else unchanged. -/
def lower (cs : List Char) : List Char :=
  cs.map Char.toLower

/-- Equality up to the case of ASCII letters. -/
def sameIgnoringCase (a b : List Char) : Bool :=
  lower a == lower b

/-! ## Lists of names -/

/-- The names of a comma separated list: blanks around a name are dropped, and so are empty
names. -/
def commaSeparated (text : String) : List String :=
  ((text.toList.splitOn ',').map trim).filter (fun w => !w.isEmpty) |>.map String.ofList

/-- The text without the blanks at its ends. -/
def trimmed (text : String) : String :=
  String.ofList (trim text.toList)

end Acme.Text
