import Acme.Octets

/-!
# JSON values

The values that requests are made of, and their compact text (RFC 8259): no blanks, members in the
order given, and escapes only where a string needs them.

Main definitions: `Value`, `Value.render` and `Value.sorted`.
-/

namespace Acme.Json

/-- A JSON value without fractions. -/
inductive Value
  | null
  | bool (b : Bool)
  | integer (n : Int)
  | text (s : String)
  | array (items : List Value)
  | object (members : List (String × Value))
  deriving Inhabited

/-! ## Strings -/

/-- The hexadecimal digit of value `n`. -/
def hexDigit (n : Nat) : Char :=
  Nat.digitChar n

/-- The form of a character inside a string: quotation marks, backslashes and controls are
escaped. -/
def escape (c : Char) : List Char :=
  if c = '"' then ['\\', '"']
  else if c = '\\' then ['\\', '\\']
  else if c.toNat = 0x08 then ['\\', 'b']
  else if c.toNat = 0x09 then ['\\', 't']
  else if c.toNat = 0x0A then ['\\', 'n']
  else if c.toNat = 0x0C then ['\\', 'f']
  else if c.toNat = 0x0D then ['\\', 'r']
  else if c.toNat < 0x20 then
    ['\\', 'u', '0', '0', hexDigit (c.toNat / 16), hexDigit (c.toNat % 16)]
  else [c]

def renderText (s : String) : List Char :=
  '"' :: s.toList.flatMap escape ++ ['"']

/-! ## Values -/

mutual

def Value.render : Value → List Char
  | .null => ['n', 'u', 'l', 'l']
  | .bool true => ['t', 'r', 'u', 'e']
  | .bool false => ['f', 'a', 'l', 's', 'e']
  | .integer n => (toString n).toList
  | .text s => renderText s
  | .array items => '[' :: renderItems items ++ [']']
  | .object members => '\x7b' :: renderMembers members ++ ['\x7d']

def renderItems : List Value → List Char
  | [] => []
  | [v] => v.render
  | v :: w :: rest => v.render ++ ',' :: renderItems (w :: rest)

def renderMembers : List (String × Value) → List Char
  | [] => []
  | [(name, v)] => renderText name ++ ':' :: v.render
  | (name, v) :: m :: rest => renderText name ++ ':' :: v.render ++ ',' :: renderMembers (m :: rest)

end

/-- The compact text of a value as a string. -/
def Value.toText (v : Value) : String :=
  String.ofList v.render

def Value.toOctets (v : Value) : Octets :=
  Octets.ofChars v.render

/-! ## Order of members -/

/-- Puts a member before the first one with a larger name. -/
def insertMember (member : String × Value) : List (String × Value) → List (String × Value)
  | [] => [member]
  | m :: rest => if member.1 ≤ m.1 then member :: m :: rest else m :: insertMember member rest

mutual

/-- The same value with the members of every object in the order of their names. -/
def Value.sorted : Value → Value
  | .array items => .array (sortedItems items)
  | .object members => .object (sortedMembers members)
  | v => v

def sortedItems : List Value → List Value
  | [] => []
  | v :: rest => v.sorted :: sortedItems rest

/-- Members in order whose values have their members in order. -/
def sortedMembers : List (String × Value) → List (String × Value)
  | [] => []
  | (name, v) :: rest => insertMember (name, v.sorted) (sortedMembers rest)

end

end Acme.Json
