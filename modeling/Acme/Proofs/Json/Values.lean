import Acme.Proofs.Json.Reading

/-!
# Values in JSON texts

A document is understood as a whole when every string in it is text and every number is an integer.
The compact text of a value is understood as that value (`ofOctets?_toOctets`): the members of its
objects are there with their names and in their order, and no others.

Main definitions: `Document.value?` and `Value.ofOctets?`.
-/

namespace Acme.Json

open Octets

/-- The integer that the octets of a number stand for: digits, after a minus sign if it is
negative. -/
def integer? : Octets → Option Int
  | 0x2D :: digits => (Document.number digits).natural?.map fun n => -(n : Int)
  | digits => (Document.number digits).natural?.map fun n => (n : Int)

mutual

/-- The value that a document stands for. -/
def Document.value? : Document → Option Value
  | .null => some .null
  | .bool b => some (.bool b)
  | .number written => do return .integer (← integer? written)
  | .string written => do return .text (← decodeText? written)
  | .array items => do return .array (← valueItems? items)
  | .object members => do return .object (← valueMembers? members)

def valueItems? : List Document → Option (List Value)
  | [] => some []
  | v :: rest => do return (← v.value?) :: (← valueItems? rest)

def valueMembers? : List (Octets × Document) → Option (List (String × Value))
  | [] => some []
  | (name, v) :: rest => do
    return (← decodeText? name, ← v.value?) :: (← valueMembers? rest)

end

/-- The value that a JSON text stands for. -/
def Value.ofOctets? (octets : Octets) : Option Value := do
  (← Document.parse? octets).value?

/-! ## Reading what was written -/

theorem integer?_decimal (m : Nat) : integer? (decimal m) = some (m : Int) := by
  unfold integer?
  split
  · next digits he =>
    have hminus : isDigit 0x2D = true := isDigit_of_mem_decimal (n := m) (he ▸ List.mem_cons_self)
    cases hminus
  · rw [natural?_decimal]
    rfl

theorem value?_integer (n : Int) : (Value.integer n).document.value? = some (.integer n) := by
  have hinteger : integer? (ofChars (toString n).toList) = some n := by
    rcases ofChars_toString n with ⟨m, hn, hm⟩ | ⟨m, hn, hm⟩
    · rw [hm, hn, integer?_decimal]
    · rw [hm, hn, integer?, natural?_decimal]
      rfl
  rw [Value.document, Document.value?, hinteger]
  rfl

mutual

theorem value?_document (v : Value) : v.document.value? = some v := by
  match v with
  | .null => rfl
  | .bool b => rfl
  | .integer n => exact value?_integer n
  | .text s =>
    rw [Value.document, Document.value?, decodeText?_written]
    rfl
  | .array items =>
    rw [Value.document, Document.value?, valueItems?_documentItems items]
    rfl
  | .object members =>
    rw [Value.document, Document.value?, valueMembers?_documentMembers members]
    rfl

theorem valueItems?_documentItems (items : List Value) :
    valueItems? (documentItems items) = some items := by
  match items with
  | [] => rfl
  | v :: rest =>
    rw [documentItems, valueItems?, value?_document v, valueItems?_documentItems rest]
    rfl

theorem valueMembers?_documentMembers (members : List (String × Value)) :
    valueMembers? (documentMembers members) = some members := by
  match members with
  | [] => rfl
  | (name, v) :: rest =>
    rw [documentMembers, valueMembers?, decodeText?_written, value?_document v,
      valueMembers?_documentMembers rest]
    rfl

end

theorem ofOctets?_toOctets (v : Value) : Value.ofOctets? v.toOctets = some v := by
  rw [Value.ofOctets?, parse?_toOctets]
  exact value?_document v

end Acme.Json
