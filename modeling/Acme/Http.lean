import Acme.Octets
import Acme.Text

/-!
# HTTP messages

Requests to the CA and its replies. Header names are compared without regard to case; a header
value is text only if all its octets are printable ASCII or tabs.

Main definitions: `Request`, `Reply` with `Reply.header?` and `Reply.headerValues`, and
`TransportError`.
-/

namespace Acme.Http

/-! ## Requests -/

/-- A request method. -/
inductive Method
  | get
  | head
  | post
  | other (name : String)
  deriving DecidableEq, Repr

namespace Method

/-- The name of a method as it is sent. -/
def name : Method → String
  | .get => "GET"
  | .head => "HEAD"
  | .post => "POST"
  | .other name => name

/-- The method with this name; names are case sensitive. -/
def ofName (name : String) : Method :=
  if name = "GET" then .get
  else if name = "HEAD" then .head
  else if name = "POST" then .post
  else .other name

end Method

/-- A request. -/
structure Request where
  method : Method
  url : String
  contentType : Option String := none
  body : Option Octets := none
  deriving DecidableEq, Repr

/-! ## Replies -/

/-- A header field. -/
structure Header where
  name : String
  value : Octets
  deriving DecidableEq, Repr

/-- Why a header field cannot be sent. -/
inductive HeaderFault
  | name
  | value
  deriving DecidableEq, Repr

/-- The words for a fault of a header field. -/
def HeaderFault.message : HeaderFault → String
  | .name => "invalid HTTP header name"
  | .value => "failed to parse header value"

def isNameCharacter (c : Char) : Bool :=
  Text.isAlphanumeric c || "!#$%&'*+-.^_|~".toList.contains c || c.toNat == 0x60

/-- The octets of header values: no controls but tabs. -/
def isValueOctet (b : UInt8) : Bool :=
  (0x20 ≤ b && b != 0x7F) || b == 0x09

/-- What is wrong with a header field, if anything. -/
def Header.fault? (header : Header) : Option HeaderFault :=
  if header.name = "" ∨ ¬ header.name.toList.all isNameCharacter then some .name
  else if ¬ header.value.all isValueOctet then some .value
  else none

/-- The value as text: printable ASCII and tabs only. -/
def Header.text? (header : Header) : Option String :=
  if header.value.all fun b => (0x20 ≤ b && b < 0x7F) || b == 0x09 then
    some (String.ofList (header.value.map fun b => Char.ofNat b.toNat))
  else none

/-- The field has this name, up to case. -/
def Header.hasName (header : Header) (name : String) : Bool :=
  Text.sameIgnoringCase header.name.toList name.toList

/-- A reply. -/
structure Reply where
  status : Nat
  headers : List Header := []
  body : Octets := []
  deriving DecidableEq, Repr

namespace Reply

def isSuccess (reply : Reply) : Bool :=
  200 ≤ reply.status && reply.status < 300

/-- The value of the first field with this name, if it is text. -/
def header? (reply : Reply) (name : String) : Option String :=
  (reply.headers.find? fun h => h.hasName name).bind Header.text?

/-- The values of the fields with this name that are text. -/
def headerValues (reply : Reply) (name : String) : List String :=
  (reply.headers.filter fun h => h.hasName name).filterMap Header.text?

end Reply

/-! ## Failures -/

/-- Why a request got no reply. -/
inductive TransportError
  /-- The exchange failed: the address is unusable, or nothing answers there. -/
  | request (reason : String)
  /-- Any other reason. -/
  | other (reason : String)
  deriving DecidableEq, Repr

def TransportError.message : TransportError → String
  | .request reason => "HTTP request failed: " ++ reason
  | .other reason => "HTTP transport error: " ++ reason

end Acme.Http
