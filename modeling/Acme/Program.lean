import Acme.CommandLine
import Acme.Log.Filter
import Acme.Run

/-!
# The program

One execution of the program: the command line is read, the configuration checked, and the run
performed. What comes out is an exit code, lines for the standard output, lines of complaint, and
the log.

Main definitions: `exitStatus`, `Report`, `planOf`, `Plan.perform` and `execute`.
-/

namespace Acme

open CommandLine (Flag Invocation LogFormat Setting Stop)

/-! ## Names -/

/-- The name of the program, which is also the source of its own log entries. -/
def programName : String := "getssl"

def programVersion : String := "0.1.0"

def programPurpose : String := "Obtain a certificate from an ACME v1 CA using HTTP-01 challenges"

/-- The source of the log entries of a run. -/
def runSource : String := "getssl::acme"

def filterVariable : String := "RUST_LOG"

/-! ## Reports -/

/-- The exit status for a code: codes that are none become 1. -/
def exitStatus (code : Int) : Nat :=
  if 0 ≤ code ∧ code ≤ 255 then code.toNat else 1

/-- What an execution leaves. -/
structure Report where
  exitCode : Nat
  /-- Lines for the standard output. -/
  output : List String := []
  /-- The complaint for the standard error. -/
  complaint : Option String := none
  /-- The log entries that are written, in order. -/
  log : List Log.Entry := []
  deriving DecidableEq, Repr

def complaintOf (message : String) : String :=
  programName ++ ": " ++ message

def optionLines : List String :=
  (Setting.all.map fun s =>
    "  " ++ (s.short?.elim "    " fun c => String.ofList ['-', c, ',', ' ']) ++ s.label ++ "  "
      ++ s.purpose)
    ++ Flag.all.map fun f =>
      "  " ++ String.ofList ['-', f.short, ',', ' '] ++ f.label ++ "  " ++ f.purpose

def helpLines : List String :=
  [programPurpose, "",
    "Usage: " ++ programName ++ " [OPTIONS] " ++ Setting.domain.label, "", "Options:"]
    ++ optionLines

/-- The report when there is nothing to run. -/
def Report.ofStop : Stop → Report
  | .help => { exitCode := 0, output := helpLines }
  | .version => { exitCode := 0, output := [programName ++ " " ++ programVersion] }
  | .misuse error => { exitCode := 2, complaint := some ("error: " ++ error.message) }

/-! ## Logging -/

/-- The filter for the log: the one that the environment asks for, or else details only on
request. -/
def filterOf (environment : List (String × String)) (verbose : Bool) : Log.Filter :=
  ((List.lookup filterVariable environment).bind Log.Filter.parse?).getD
    (Log.Filter.upTo (if verbose then .debug else .info))

def startEntry (config : Config) : Log.Entry :=
  ⟨.info, "Starting getssl", [("version", .quoted programVersion),
    ("domains", .shown (Text.quotedList config.domains)), ("ca", .shown config.caUrl)]⟩

/-- The log entry for a run that obtained the certificate. -/
def doneEntry (files : IssuedFiles) : Log.Entry :=
  ⟨.info, "Done", [("certificate", .shown files.certPath.text)]⟩

/-- The log entry for a run that failed. -/
def failedEntry (phase : Phase) (failure : Failure) : Log.Entry :=
  ⟨.error, "Run failed", [("state", .shown phase.name), ("error", .shown failure.message)]⟩

def CommandLine.LogFormat.render (format : LogFormat) (entry : Log.Entry) : String :=
  match format with
  | .text => entry.line
  | .json => entry.toJson.toText

/-! ## Set-up -/

/-- A part of what has to be there before a run can start. -/
inductive SetupStep
  | runtime
  | client
  deriving DecidableEq, Repr

def SetupStep.complaint : SetupStep → String
  | .runtime => "Failed to start async runtime"
  | .client => "Failed to create HTTP client"

/-- A part of the set-up failed. Each of the reasons is explained by the next one. -/
structure SetupFault where
  step : SetupStep
  reasons : List String
  deriving DecidableEq, Repr

def SetupFault.message (fault : SetupFault) : String :=
  ": ".intercalate (fault.step.complaint :: fault.reasons)

/-- The words for a run over no domains. -/
def noDomainMessage : String := "At least one domain is required"

/-! ## Executing -/

/-- A run that the command line asks for, and how it is logged. -/
structure Plan where
  config : Config
  filter : Log.Filter
  logFormat : LogFormat
  deriving DecidableEq, Repr

/-- What the command line asks for: a run, or else only a report. -/
def planOf (arguments : List String) (environment : List (String × String)) :
    Except Report Plan :=
  match Invocation.read arguments environment with
  | .error stop => .error (.ofStop stop)
  | .ok invocation =>
    let violations := invocation.config.violations
    if violations = [] then
      .ok ⟨invocation.config, filterOf environment invocation.verbose, invocation.logFormat⟩
    else .error { exitCode := 1, complaint := some (complaintOf (Config.complaint violations)) }

namespace Plan

/-- The entries that are written for a source. -/
def kept (plan : Plan) (source : String) (entries : List Log.Entry) : List Log.Entry :=
  entries.filter fun entry => plan.filter.keeps source entry.level

/-- The log of a run that has left these entries. -/
def logged (plan : Plan) (entries : List Log.Entry) : List Log.Entry :=
  plan.kept programName [startEntry plan.config] ++ plan.kept runSource entries

/-- The log of a run that has ended. -/
def loggedAll (plan : Plan) (s : Session) (last : Log.Entry) : List Log.Entry :=
  plan.logged s.entries ++ plan.kept programName [last]

def failed (plan : Plan) (failure : Failure) (s : Session) : Report :=
  { exitCode := exitStatus failure.exitCode, complaint := some (complaintOf failure.message)
    log := plan.loggedAll s (failedEntry s.phase failure) }

def perform (plan : Plan) (keys : KeySupply) (s : Session) : Report × Session :=
  match run plan.config keys s with
  | .ok files s => ({ exitCode := 0, log := plan.loggedAll s (doneEntry files) }, s)
  | .error failure s => (plan.failed failure s, s)

/-- The report for a run that does not start. -/
def unready (message : String) (log : List Log.Entry) : Report :=
  { exitCode := 1, complaint := some (complaintOf message), log := log }

/-- Performs the run, unless its set-up failed or there are no domains to run over. -/
def start (plan : Plan) (fault : Option SetupFault) (keys : KeySupply) (s : Session) :
    Report × Session :=
  match fault with
  | some fault => (unready fault.message [], s)
  | none =>
    match DomainList.ofList? plan.config.domains with
    | none => (unready noDomainMessage (plan.logged []), s)
    | some _ => plan.perform keys s

end Plan

/-- One execution of the program: the report, and the session that is left. -/
def execute (arguments : List String) (environment : List (String × String))
    (fault : Option SetupFault) (keys : KeySupply) (s : Session) : Report × Session :=
  match planOf arguments environment with
  | .error report => (report, s)
  | .ok plan => plan.start fault keys s

end Acme
