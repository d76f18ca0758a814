import Acme.Http.Message
import Acme.Session.Event
import Std.Async

/-!
# The network

Requests are sent over TCP without encryption, so that a CA is reached under `http` only; a request
under `https` is not answered. The responder answers visitors while the program goes on.

Main definitions: `send`, `Responder` and `Responder.start`.
-/

namespace Acme.Shell

open Std.Async (Async)
open Std.Net (IPAddr SocketAddress)

abbrev Connection := Std.Async.TCP.Socket.Client

abbrev Listener := Std.Async.TCP.Socket.Server

/-! ## Addresses -/

/-- The socket address for an address and a port. -/
def socketAddress (ip : IPAddr) (port : UInt16) : SocketAddress :=
  match ip with
  | .v4 address => .v4 ⟨address, port⟩
  | .v6 address => .v6 ⟨address, port⟩

def systemAddress (ip : IpAddress) : Option IPAddr :=
  match ip with
  | .v4 a b c d => some (.v4 ⟨#v[a, b, c, d]⟩)
  | .v6 [a, b, c, d, e, f, g, h] => some (.v6 ⟨#v[a, b, c, d, e, f, g, h]⟩)
  | .v6 _ => none

/-- Where the other side of a connection is. -/
def endpointOf (address : SocketAddress) : Endpoint :=
  match address with
  | .v4 a =>
    match a.addr.octets.toList with
    | [b, c, d, e] => ⟨.v4 b c d e, a.port⟩
    | _ => ⟨.v4 0 0 0 0, a.port⟩
  | .v6 a => ⟨.v6 a.addr.segments.toList, a.port⟩

/-- Where the host of a URL can be reached. -/
def addressesOf (url : Url) : Async (List SocketAddress) := do
  let port := url.port.getD 80
  match url.host with
  | none => return []
  | some (.address ip) => return ((systemAddress ip).map fun a => socketAddress a port).toList
  | some (.name name) =>
    let found ← Std.Async.DNS.getAddrInfo name (toString port.toNat)
    return found.toList.map fun a => socketAddress a port

/-! ## Connections -/

/-- The octets that are received at once at most. -/
def receiveSize : UInt64 := 65536

/-- Everything that comes until the other side ends the connection. -/
partial def receiveAll (socket : Connection) (received : ByteArray) : Async ByteArray := do
  match ← socket.recv? receiveSize with
  | none => return received
  | some bytes => receiveAll socket (received ++ bytes)

/-- Sends octets and receives the answer to them. -/
def converse (address : SocketAddress) (octets : Octets) : Async Octets := do
  let socket ← Std.Async.TCP.Socket.Client.mk
  socket.connect address
  socket.send ⟨octets.toArray⟩
  let received ← receiveAll socket .empty
  return received.data.toList

def converseAny (octets : Octets) : List SocketAddress → Async (Option Octets)
  | [] => return none
  | address :: rest => do
    try
      let answer ← converse address octets
      return some answer
    catch _ => converseAny octets rest

/-! ## Requests -/

/-- How long a request may take, in milliseconds. -/
def requestTimeoutMs : Nat := 60000

/-- The time between two looks for a result, in milliseconds. -/
def resultIntervalMs : Nat := 5

/-- Waits for a result, a number of looks at most. -/
def awaitResult {α : Type} (task : Std.Async.AsyncTask α) : (looks : Nat) → IO (Option α)
  | 0 => return none
  | looks + 1 => do
    if (← task.getState) = .finished then
      try return some (← task.block)
      catch _ => return none
    IO.sleep (UInt32.ofNat resultIntervalMs)
    awaitResult task looks

def sendOnce (request : Http.Request) (agent : String) :
    IO (Except Http.TransportError Http.Reply) := do
  match request.target? with
  | .error error => return .error error
  | .ok url =>
    if url.scheme ≠ "http" then return .error request.unanswered
    let octets := (request.toMessage url agent).toOctets
    let exchange : Async (Option Octets) := do
      let addresses ← addressesOf url
      converseAny octets addresses
    let answer ← awaitResult (← exchange.toIO) (requestTimeoutMs / resultIntervalMs)
    match (answer.join.bind Http.Message.ofOctets?).bind (Http.Reply.ofMessage? request.method) with
    | some reply => return .ok reply
    | none => return .error request.unanswered

/-- Sends a request and follows redirections, as many as are left. -/
def follow (agent : String) :
    (left : Nat) → Http.Request → IO (Except Http.TransportError Http.Reply)
  | left, request => do
    match ← sendOnce request agent with
    | .error error => return .error error
    | .ok reply =>
      match request.redirected? reply, left with
      | none, _ => return .ok reply
      | some _, 0 => return .error request.overRedirected
      | some next, left + 1 => follow agent left next

def send (request : Http.Request) (agent : String) : IO (Except Http.TransportError Http.Reply) :=
  follow agent Http.mostRedirections request

/-! ## The responder -/

/-- What the responder serves, and who has asked since that was last looked at. -/
structure Responder where
  registry : IO.Ref Registry
  visits : IO.Ref (List Visit)

namespace Responder

def new : IO Responder := do
  return ⟨← IO.mkRef [], ← IO.mkRef []⟩

/-- Receives a request up to the empty line behind its fields. -/
partial def receiveHead (socket : Connection) (received : ByteArray) :
    Async (Option Http.Message) := do
  match Http.Message.ofOctets? received.data.toList with
  | some message => return some message
  | none =>
    match ← socket.recv? receiveSize with
    | none => return none
    | some bytes => receiveHead socket (received ++ bytes)

/-- The response to a message, which is remembered as a visit. -/
def respond (responder : Responder) (peer : Endpoint) (message : Http.Message) :
    IO Http.Message := do
  match Http.requestLine? message with
  | none => return Http.responseMessage .get { status := 400 }
  | some (method, target) =>
    responder.visits.modify (· ++ [⟨peer, method, target⟩])
    let registry ← responder.registry.get
    return Http.responseMessage method (registry.respond method (pathOfTarget target))

def serve (responder : Responder) (socket : Connection) : Async Unit := do
  let peer ← socket.getPeerName
  match ← receiveHead socket .empty with
  | none => return ()
  | some message =>
    let response ← responder.respond (endpointOf peer) message
    socket.send ⟨response.toOctets.toArray⟩
    socket.shutdown

partial def acceptAll (responder : Responder) (server : Listener) : Async Unit := do
  let socket ← server.accept
  Std.Async.background (try responder.serve socket catch _ => return ())
  acceptAll responder server

def backlog : UInt32 := 128

def start (responder : Responder) (endpoint : Endpoint) : IO Unit := do
  match systemAddress endpoint.address with
  | none => return ()
  | some ip =>
    let server ← Std.Async.TCP.Socket.Server.mk
    server.bind (socketAddress ip endpoint.port)
    server.listen backlog
    discard (responder.acceptAll server).toIO

/-- The visits that nobody has looked at yet. -/
def takeVisits (responder : Responder) : IO (List Visit) :=
  responder.visits.modifyGet fun visits => (visits, [])

end Responder

end Acme.Shell
