import Acme.Program
import Acme.Session.Replay
import Acme.Shell.Files
import Acme.Shell.Network
import Std.Time

/-!
# The command

Obtains a certificate: reads the command line and the environment, carries out the run that they ask
for, and exits with the code of its outcome.

The run itself is a function of what becomes known from outside. It is replayed whenever something
becomes known, and what is new in its history is done: entries are logged, files written, pauses
made, visitors answered, and the next request is sent.

Main definitions: `Known`, `carryOn` and `main`.
-/

namespace Acme.Shell

/-! ## What is known -/

/-- What has become known from outside, and how many events of the history have been done. -/
structure Known where
  answers : List Answer := []
  refusals : List (FileStep × SystemFault) := []
  listenFault : Option SystemFault := none
  done : Nat := 0

/-- The session in which all that is known holds. -/
def Known.session (known : Known) (start : Session) : Session :=
  { start with
    answers := known.answers
    refusal := fun step => known.refusals.lookup step
    listenFault := known.listenFault }

def agent : String := programName ++ "/" ++ programVersion

/-! ## Logging -/

def complain (line : String) : IO Unit := do
  (← IO.getStderr).putStrLn line

/-- The time at which a line is logged. -/
def timeStamp : IO String := do
  let now ← Std.Time.PlainDateTime.now
  return now.format "uuuu-MM-dd HH:mm:ss"

def logEntries (plan : Plan) (entries : List Log.Entry) : IO Unit :=
  for entry in entries do
    match plan.logFormat with
    | .text => complain ((← timeStamp) ++ " " ++ entry.line)
    | .json => complain entry.toJson.toText

/-! ## Doing what happens -/

/-- The time between two looks for a visitor, in milliseconds. -/
def lookIntervalMs : Nat := 50

/-- Waits until somebody has asked for a token, a number of looks at most. -/
def awaitVisitor (responder : Responder) (token : String) : (looks : Nat) → IO Unit
  | 0 => return ()
  | looks + 1 => do
    let visits ← responder.visits.get
    if visits.any fun visit => tokenOfPath? (pathOfTarget visit.target) = some token then return ()
    IO.sleep (UInt32.ofNat lookIntervalMs)
    awaitVisitor responder token looks

/-- Does what an event is about. What is learnt thereby is added to what is known. -/
def happen (plan : Plan) (responder : Responder) (known : Known) : Event → IO Known
  | .listened address => do
    try
      responder.start address
      return known
    catch error => return { known with listenFault := some (faultOf error) }
  | .offered token authorization => do
    responder.registry.modify fun registry => registry.add token authorization
    return known
  | .withdrawn token => do
    responder.registry.modify fun registry => registry.remove token
    return known
  | .awaited token false => do
    awaitVisitor responder token (plan.config.policy.servedGraceMs / lookIntervalMs)
    return known
  | .slept milliseconds => do
    IO.sleep (UInt32.ofNat milliseconds)
    return known
  | .changed step none => do
    match ← perform step with
    | none => return known
    | some fault => return { known with refusals := (step, fault) :: known.refusals }
  | .logged entry => do
    logEntries plan (plan.kept runSource [entry])
    return known
  | .entered _ | .exchanged .. | .awaited _ true | .changed _ (some _) => return known

/-- Does what events are about until something is learnt that changes what comes after. -/
def happenAll (plan : Plan) (responder : Responder) (known : Known) : List Event → IO (Known × Bool)
  | [] => return (known, false)
  | event :: rest => do
    let learnt ← happen plan responder known event
    let next := { learnt with done := known.done + 1 }
    if learnt.refusals.length ≠ known.refusals.length
        ∨ learnt.listenFault ≠ known.listenFault then
      return ({ next with done := known.done }, true)
    happenAll plan responder next rest

/-- Carries on with a run until it ends. -/
partial def carryOn (plan : Plan) (keys : KeySupply) (start : Session) (responder : Responder)
    (known : Known) : IO Report := do
  let (report, s) := plan.start none keys (known.session start)
  let (before, request) := s.untilRequest known.answers.length
  let (known, changed) ← happenAll plan responder known (before.drop known.done)
  if changed then carryOn plan keys start responder known
  else
    match request with
    | none =>
      logEntries plan (report.log.drop (plan.logged s.entries).length)
      return report
    | some request =>
      let outcome ← send request agent
      let answer : Answer := { visits := ← responder.takeVisits, outcome := outcome }
      carryOn plan keys start responder { known with answers := known.answers ++ [answer] }

/-! ## Beginning -/

/-- The octets that a seed is made of. -/
def seedLength : USize := 32

/-- New keys, each made once at most. -/
def newKeys (config : Config) : IO KeySupply := do
  let accountSeed ← IO.getRandomBytes seedLength
  let certificateSeed ← IO.getRandomBytes seedLength
  let supply := KeySupply.ofSeeds ⟨accountSeed.data.toList, 0⟩ ⟨certificateSeed.data.toList, 0⟩
  let account := Thunk.mk fun _ => supply.account config.accountKeyBits
  let certificate := Thunk.mk fun _ => supply.certificate config.certKeyBits
  return ⟨fun _ => account.get, fun _ => certificate.get⟩

/-- The session that begins with what is stored at the path of the account key. -/
def startWith (path : Path) (stored : Option Octets) : Session :=
  match stored with
  | none => {}
  | some octets =>
    let steps := [FileStep.makeParent path, .openEmpty path privateMode, .append path octets]
    match Session.changeAll steps {} with
    | .ok _ s => { files := s.files }
    | .error _ s => { files := s.files }

/-- What a run needs from the system before it starts. -/
def equip (config : Config) : IO (Except SetupFault (KeySupply × Responder)) := do
  try return .ok (← newKeys config, ← Responder.new)
  catch error => return .error ⟨.runtime, [error.toString]⟩

def runPlan (plan : Plan) : IO Report := do
  match ← equip plan.config with
  | .error fault => return Plan.unready fault.message []
  | .ok (keys, responder) =>
    let path := plan.config.accountKey
    logEntries plan (plan.logged [])
    let fail (fault : SystemFault) : IO Report := do
      let report := plan.failed (.accountKeyInvalid path (StorageError.io fault).message) {}
      logEntries plan (report.log.drop (plan.logged []).length)
      return report
    let start ← match ← contents path with
      | .ok octets => pure (startWith path (some octets))
      | .error .noEntry => pure (startWith path none)
      | .error .notDirectory => pure (startWith path none)
      | .error fault => return ← fail fault
    carryOn plan keys start responder {}

def variableNames : List String :=
  filterVariable :: CommandLine.Setting.all.filterMap CommandLine.Setting.environmentName?

/-- The environment, as far as it counts. -/
def environment : IO (List (String × String)) := do
  variableNames.filterMapM fun name => do
    return (← IO.getEnv name).map fun value => (name, value)

end Acme.Shell

def main (arguments : List String) : IO UInt32 := do
  let report ← match Acme.planOf arguments (← Acme.Shell.environment) with
    | .error report => pure report
    | .ok plan => Acme.Shell.runPlan plan
  for line in report.output do
    IO.println line
  for line in report.complaint do
    Acme.Shell.complain line
  return UInt32.ofNat report.exitCode
