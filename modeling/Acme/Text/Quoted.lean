import Acme.Text
import Acme.Unicode.Data.Invisible
import Acme.Unicode.Ranges

/-!
# Text between quotation marks

Text as a log shows it: every character that does not show itself is written as an escape.

Main definitions: `quoted` and `quotedList`.
-/

namespace Acme.Text

/-- The code points beyond ASCII that are written as escapes. -/
def invisible : Unicode.Ranges := Unicode.Ranges.ofWords Unicode.invisibleWords

def isVisible (c : Char) : Bool :=
  0x20 ≤ c.toNat && !invisible.contains c

/-- The form of a character between quotation marks: a backslash goes before quotation marks and
backslashes, and what is not visible is written by its code point. -/
def escapeForQuotes (c : Char) : List Char :=
  if c = '"' then ['\\', '"']
  else if c = '\\' then ['\\', '\\']
  else if c = '\n' then ['\\', 'n']
  else if c = '\r' then ['\\', 'r']
  else if c = '\t' then ['\\', 't']
  else if c.toNat = 0 then ['\\', '0']
  else if isVisible c then [c]
  else ['\\', 'u', '\x7b'] ++ Nat.toDigits 16 c.toNat ++ ['\x7d']

def quoted (text : String) : String :=
  String.ofList ('"' :: text.toList.flatMap escapeForQuotes ++ ['"'])

/-- The texts between quotation marks, in brackets and with commas between them. -/
def quotedList (texts : List String) : String :=
  "[" ++ ", ".intercalate (texts.map quoted) ++ "]"

end Acme.Text
