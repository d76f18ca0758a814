import Acme.Json.Value
import Acme.Text.Quoted

/-!
# Log entries

An entry has a level, a message, and named values in the order in which they were given.

Main definitions: `Level`, `Value`, `Entry`, `Entry.text` and `Entry.toJson`.
-/

namespace Acme.Log

/-- How much an entry matters, from the most to the least. -/
inductive Level
  | error
  | warn
  | info
  | debug
  | trace
  deriving DecidableEq, Repr

namespace Level

def name : Level → String
  | .error => "ERROR"
  | .warn => "WARN"
  | .info => "INFO"
  | .debug => "DEBUG"
  | .trace => "TRACE"

/-- The place of a level in the order of detail. -/
def detail : Level → Nat
  | .error => 1
  | .warn => 2
  | .info => 3
  | .debug => 4
  | .trace => 5

end Level

/-- A named value of an entry. -/
inductive Value
  /-- Text that is written as it is. -/
  | shown (text : String)
  /-- Text that is written between quotation marks. -/
  | quoted (text : String)
  | number (n : Nat)
  deriving DecidableEq, Repr

/-- The form of a value in a line of text. -/
def Value.text : Value → String
  | .shown text => text
  | .quoted text => Text.quoted text
  | .number n => toString n

/-- The form of a value in a JSON object: text as it is, and numbers. -/
def Value.toJson : Value → Json.Value
  | .shown text => .text text
  | .quoted text => .text text
  | .number n => .integer n

/-- An entry. -/
structure Entry where
  level : Level
  message : String
  fields : List (String × Value) := []
  deriving DecidableEq, Repr

namespace Entry

/-- The message and the fields in a line of text. -/
def text (entry : Entry) : String :=
  " ".intercalate (entry.message :: entry.fields.map fun (name, value) => name ++ "=" ++ value.text)

def line (entry : Entry) : String :=
  entry.level.name ++ " " ++ entry.text

/-- The entry as a JSON object. The message is one of the fields, and these are sorted by name. -/
def toJson (entry : Entry) : Json.Value :=
  let fields := ("message", Json.Value.text entry.message)
    :: entry.fields.map fun (name, value) => (name, value.toJson)
  .object [("level", .text entry.level.name), ("fields", (Json.Value.object fields).sorted)]

/-- The entry reports a condition that deserves attention. -/
def isWarning (entry : Entry) : Bool :=
  entry.level.detail ≤ Level.warn.detail

end Entry

end Acme.Log
