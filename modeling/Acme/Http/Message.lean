import Acme.Http.Redirect
import Acme.Registry

/-!
# HTTP messages on the wire

A message is a start line, header fields, an empty line and a body (RFC 9112). Requests are written
and replies read on the side of the client; on the side of the responder a request line is read and
a response written. A connection serves one message, so that the body of a reply may last until its
end.

Main definitions: `Message.toOctets`, `Message.ofOctets?`, `Request.toMessage`, `Reply.ofMessage?`,
`requestLine?` and `responseMessage`.
-/

namespace Acme.Http

/-- A start line, header fields and a body. -/
structure Message where
  start : String
  fields : List Header := []
  body : Octets := []
  deriving DecidableEq, Repr

/-! ## Lines -/

def lineEnd : Octets := [0x0D, 0x0A]

/-- The first line without its end, and what follows. A line may end in a line feed alone. -/
def cutLine? : Octets → Option (Octets × Octets)
  | [] => none
  | 0x0A :: rest => some ([], rest)
  | 0x0D :: 0x0A :: rest => some ([], rest)
  | b :: rest => (cutLine? rest).map fun (line, after) => (b :: line, after)

theorem length_lt_of_cutLine? {bytes line rest : Octets} (h : cutLine? bytes = some (line, rest)) :
    rest.length < bytes.length := by
  induction bytes using cutLine?.induct generalizing line with
  | case1 => simp [cutLine?] at h
  | case2 after => simp_all [cutLine?]
  | case3 after =>
    simp only [cutLine?, Option.some.injEq, Prod.mk.injEq] at h
    simp only [← h.2, List.length_cons]
    omega
  | case4 b after hLf hCrLf ih =>
    rw [cutLine?] at h
    · simp only [Option.map_eq_some_iff, Prod.exists, Prod.mk.injEq] at h
      obtain ⟨inner, tail, hCut, -, rfl⟩ := h
      exact Nat.lt_succ_of_lt (ih hCut)
    · exact hLf
    · exact hCrLf

/-- The octets as characters, one for one. -/
def latin (bytes : Octets) : List Char :=
  bytes.map fun b => Char.ofNat b.toNat

/-! ## Header fields -/

def isFieldBlank (b : UInt8) : Bool :=
  b == 0x20 || b == 0x09

def trimBlanks (bytes : Octets) : Octets :=
  ((bytes.dropWhile isFieldBlank).reverse.dropWhile isFieldBlank).reverse

/-- The field that a line holds: a name, a colon and a value. -/
def Header.ofLine? (line : Octets) : Option Header :=
  match line.span (· != 0x3A) with
  | (_, []) => none
  | (name, _ :: value) => some ⟨String.ofList (latin name), trimBlanks value⟩

def Header.line (header : Header) : Octets :=
  Octets.ofText (header.name ++ ": ") ++ header.value

/-- The fields up to the empty line, and what follows. -/
def cutFields? (bytes : Octets) : Option (List Header × Octets) :=
  match _ : cutLine? bytes with
  | none => none
  | some ([], rest) => some ([], rest)
  | some (line, rest) => do
    let field ← Header.ofLine? line
    let (fields, after) ← cutFields? rest
    return (field :: fields, after)
termination_by bytes.length
decreasing_by exact length_lt_of_cutLine? (by assumption)

/-! ## Messages -/

namespace Message

def toOctets (message : Message) : Octets :=
  Octets.ofText message.start ++ lineEnd
    ++ message.fields.flatMap (fun field => field.line ++ lineEnd) ++ lineEnd ++ message.body

/-- The message that octets hold; its body is all that follows the empty line. -/
def ofOctets? (bytes : Octets) : Option Message := do
  let (start, rest) ← cutLine? bytes
  let (fields, body) ← cutFields? rest
  return ⟨String.ofList (latin start), fields, body⟩

end Message

/-! ## Bodies -/

/-- The number that digits to base 16 write; what follows a semicolon does not count. -/
def chunkLength? (line : Octets) : Option Nat := do
  let digits := (latin (trimBlanks (line.takeWhile (· != 0x3B))))
  guard (digits ≠ [])
  digits.foldlM (fun n c => (IpAddress.hexValue? c).map (16 * n + ·)) 0

/-- The octets of a body in chunks: each has its length in a line before it, and the last one is
empty. -/
def joinChunks? (bytes : Octets) : Option Octets :=
  match _ : cutLine? bytes with
  | none => none
  | some (line, rest) =>
    match chunkLength? line with
    | none => none
    | some 0 => some []
    | some n =>
      if rest.length < n + lineEnd.length then none
      else (joinChunks? (rest.drop (n + lineEnd.length))).map fun body => rest.take n ++ body
termination_by bytes.length
decreasing_by
  have : rest.length < bytes.length := length_lt_of_cutLine? (by assumption)
  simp only [List.length_drop]
  omega

/-- The value of the first field with this name. -/
def Message.field? (message : Message) (name : String) : Option String :=
  (message.fields.find? fun field => field.hasName name).bind Header.text?

/-- The body of a reply. It comes in chunks, or has a length, or lasts until the end. -/
def Message.body? (message : Message) : Option Octets :=
  if (message.field? "Transfer-Encoding").any fun v =>
      Text.sameIgnoringCase v.toList "chunked".toList then
    joinChunks? message.body
  else
    match (message.field? "Content-Length").bind String.toNat? with
    | none => some message.body
    | some n => if message.body.length < n then none else some (message.body.take n)

/-! ## The client -/

def hasNoBody (method : Method) (status : Nat) : Bool :=
  method == .head || status == 204 || status == 304

/-- The reply that a message is, to a request with this method. -/
def Reply.ofMessage? (method : Method) (message : Message) : Option Reply := do
  let words := message.start.toList.splitOn ' '
  let version ← words[0]?
  guard (version = "HTTP/1.1".toList ∨ version = "HTTP/1.0".toList)
  let status ← (words[1]?.map String.ofList).bind String.toNat?
  let body ← if hasNoBody method status then some [] else message.body?
  return ⟨status, message.fields, body⟩

def Header.ofText (name value : String) : Header :=
  ⟨name, Octets.ofText value⟩

def targetOf (url : Url) : String :=
  String.ofList (Url.renderPath true url.path
    ++ (match url.query with | none => [] | some query => '?' :: query))

/-- Host and port of a URL; the port of the scheme is left out. -/
def authorityOf (url : Url) : String :=
  (url.host.elim "" Url.Host.render)
    ++ (match url.port with | none => "" | some port => ":" ++ toString port.toNat)

/-- The message that makes a request to a URL on behalf of an agent. -/
def Request.toMessage (request : Request) (url : Url) (agent : String) : Message :=
  let body := request.body.getD []
  { start := request.method.name ++ " " ++ targetOf url ++ " HTTP/1.1"
    fields := [.ofText "Host" (authorityOf url), .ofText "User-Agent" agent, .ofText "Accept" "*/*",
        .ofText "Connection" "close"]
      ++ (request.contentType.toList.map fun type => .ofText "Content-Type" type)
      ++ (request.body.toList.map fun body => .ofText "Content-Length" (toString body.length))
    body := body }

/-! ## The responder -/

/-- The method and the target that a message asks with. -/
def requestLine? (message : Message) : Option (Method × String) :=
  match (message.start.toList.splitOn ' ').map String.ofList with
  | [method, target, version] =>
    if version = "HTTP/1.1" ∨ version = "HTTP/1.0" then some (.ofName method, target) else none
  | _ => none

def reason (status : Nat) : String :=
  match status with
  | 200 => "OK"
  | 404 => "Not Found"
  | 405 => "Method Not Allowed"
  | _ => "Bad Request"

/-- The message of a response; a request with method HEAD is answered without the body. -/
def responseMessage (method : Method) (response : Response) : Message :=
  { start := "HTTP/1.1 " ++ toString response.status ++ " " ++ reason response.status
    fields := (response.contentType.toList.map fun type => .ofText "Content-Type" type)
      ++ [.ofText "Content-Length" (toString response.body.utf8ByteSize),
        .ofText "Connection" "close"]
    body := if method = .head then [] else Octets.ofText response.body }

end Acme.Http
