import Acme.DomainList
import Acme.Session.Event

/-!
# Sessions

A session is everything that the steps of a run read and change: what the CA is going to answer,
the files, whether the responder can listen, and what is remembered between steps. Every step leaves
a record of what it did. Steps are actions, which change the session and may fail.

Main definitions: `Session`, `Action`, `Session.exchange` and `Session.change`.
-/

namespace Acme

/-- The state of a session. -/
structure Session where
  /-- What the CA is going to do with the next requests. -/
  answers : List Answer := []
  /-- Why a request fails after that. -/
  afterwards : Http.Request → Http.TransportError := fun _ => .other "no reply"
  files : FileSystem := {}
  /-- Why a call on the files is refused where the tree of files gives no reason. -/
  refusal : FileStep → Option SystemFault := fun _ => none
  /-- Why the responder cannot listen, if it cannot. -/
  listenFault : Option SystemFault := none
  /-- Visitors can connect to the responder. -/
  reachable : Bool := true
  /-- The nonce that the next signed request uses. -/
  nonce : Option String := none
  registry : Registry := []
  /-- The responder listens. -/
  listening : Bool := false
  /-- Visitors that nobody has taken notice of, first come first. -/
  served : List Served := []
  phase : Phase := .init
  guards : Guards := {}
  domains : DomainList := {}
  /-- What has happened, the latest first. -/
  trace : List Event := []

abbrev Action (ε α : Type) := EStateM ε Session α

namespace Session

variable {ε δ α : Type}

/-! ## Failures -/

/-- Performs an action and tells whether it failed. -/
def attempt (action : Action ε α) : Action δ (Except ε α) := fun s =>
  match action s with
  | .ok a s => .ok (.ok a) s
  | .error e s => .ok (.error e) s

/-- Performs an action and turns its failure into another one. -/
def orFail (action : Action ε α) (f : ε → δ) : Action δ α := fun s =>
  match action s with
  | .ok a s => .ok a s
  | .error e s => .error (f e) s

/-! ## The record -/

def recorded (s : Session) (event : Event) : Session :=
  { s with trace := event :: s.trace }

def record (event : Event) : Action ε Unit :=
  modify fun s => s.recorded event

def log (level : Log.Level) (message : String) (fields : List (String × Log.Value) := []) :
    Action ε Unit :=
  record (.logged ⟨level, message, fields⟩)

def enter (phase : Phase) : Action ε Unit :=
  modify fun s => { s with phase := phase }.recorded (.entered phase)

def sleep (milliseconds : Nat) : Action ε Unit :=
  record (.slept milliseconds)

/-! ## The responder -/

/-- Answers a visitor; there is none when nobody listens. A visitor that gets a key authorization
is remembered. -/
def visited (s : Session) (visit : Visit) : Option Response × Session :=
  if s.listening && s.reachable then
    let path := pathOfTarget visit.target
    let response := s.registry.respond visit.method path
    match tokenOfPath? path with
    | none => (some response, s)
    | some token =>
      let fields := [("peer", Log.Value.shown visit.peer.render), ("token", .shown token)]
      if response.status = 200 then
        let remembered := { s with served := s.served ++ [Served.mk token visit.peer] }
        (some response, remembered.recorded (.logged ⟨.info, "Serving ACME challenge", fields⟩))
      else if response.status = 404 then
        (some response, s.recorded
          (.logged ⟨.warn, "Request for unknown challenge token", fields⟩))
      else (some response, s)
  else (none, s)

def visitedBy (s : Session) : List Visit → List (Visit × Option Response) × Session
  | [] => ([], s)
  | visit :: rest =>
    let (response, s) := s.visited visit
    let (responses, s) := s.visitedBy rest
    ((visit, response) :: responses, s)

def listen (address : Endpoint) : Action SystemFault Unit := do
  let s ← get
  if s.listening then return
  match s.listenFault with
  | some fault => throw fault
  | none =>
    set ({ s with listening := true }.recorded (.listened address))
    log .info "HTTP-01 challenge responder listening" [("address", .shown address.render)]

def offer (token authorization : String) : Action ε Unit :=
  modify fun s =>
    { s with registry := s.registry.add token authorization }.recorded
      (.offered token authorization)

def withdraw (token : String) : Action ε Unit :=
  modify fun s => { s with registry := s.registry.remove token }.recorded (.withdrawn token)

/-- The first visitor of a token, and those that came after it. -/
def takeServed? (token : String) : List Served → Option (Served × List Served)
  | [] => none
  | served :: rest => if served.token = token then some (served, rest) else takeServed? token rest

/-- Waits for a visitor of a token. It is of no consequence whether there was one. -/
def awaitServed (token : String) : Action ε Unit := do
  let s ← get
  match takeServed? token s.served with
  | some (served, rest) =>
    set ({ s with served := rest }.recorded (.awaited token true))
    log .info "CA fetched challenge token"
      [("token", .shown token), ("peer", .shown served.peer.render)]
  | none => set ({ s with served := [] }.recorded (.awaited token false))

/-! ## Requests -/

def nextAnswer (s : Session) (request : Http.Request) : Answer × Session :=
  match s.answers with
  | [] => ({ outcome := .error (s.afterwards request) }, s)
  | answer :: rest => (answer, { s with answers := rest })

/-- Sends a request and waits for the reply. -/
def exchange (request : Http.Request) : Action Http.TransportError Http.Reply := fun s =>
  let (answer, s) := s.nextAnswer request
  let (visits, s) := s.visitedBy answer.visits
  let s := s.recorded (.exchanged request visits answer.outcome)
  match answer.outcome with
  | .ok reply => .ok reply s
  | .error error => .error error s

/-! ## Files -/

def change (step : FileStep) : Action SystemFault Unit := fun s =>
  match s.refusal step with
  | some fault => .error fault (s.recorded (.changed step (some fault)))
  | none =>
    match step.run s.files with
    | .ok () files => .ok () ({ s with files := files }.recorded (.changed step none))
    | .error fault files =>
      .error fault ({ s with files := files }.recorded (.changed step (some fault)))

def changeAll : List FileStep → Action SystemFault Unit
  | [] => pure ()
  | step :: rest => do
    change step
    changeAll rest

/-! ## Views -/

/-- What has happened, in order. -/
def history (s : Session) : List Event :=
  s.trace.reverse

def requests (s : Session) : List Http.Request :=
  s.history.filterMap fun
    | .exchanged request _ _ => some request
    | _ => none

/-- The phases entered, in order. -/
def phases (s : Session) : List Phase :=
  s.history.filterMap fun
    | .entered phase => some phase
    | _ => none

def entries (s : Session) : List Log.Entry :=
  s.history.filterMap fun
    | .logged entry => some entry
    | _ => none

end Session

end Acme
