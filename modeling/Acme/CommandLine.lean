import Acme.CommandLine.Setting

/-!
# The command line

Reads the arguments one by one. The value of a setting may stand in an argument of its own; such a
setting waits, and is looked at when the next flag or setting comes, or at the end. So an argument
that is not known is told even if the value before it is bad. Short flags may be joined. After the
arguments the environment gives what is missing.

Main definitions: `Stop`, `Reading`, `Reading.argument`, `choicesOf` and `Invocation.read`.
-/

namespace Acme.CommandLine

/-- Why there is nothing to run. -/
inductive Stop
  | help
  | version
  | misuse (error : UsageError)
  deriving DecidableEq, Repr

/-- What has been read. -/
structure Reading where
  choices : Choices := {}
  given : List Setting := []
  flags : List Flag := []
  /-- The setting that has not been looked at, and its value if that has come. -/
  waiting : Option (Setting × Option String) := none
  deriving DecidableEq, Repr

namespace Reading

/-! ## Settings and flags -/

/-- Takes a value for a setting, wherever it comes from. -/
def take (r : Reading) (setting : Setting) (value : String) : Except Stop Reading :=
  match setting.store value r.choices with
  | .error error => .error (.misuse error)
  | .ok choices => .ok { r with choices := choices, given := setting :: r.given }

def give (r : Reading) (setting : Setting) (value : String) : Except Stop Reading :=
  if setting ∈ r.given ∧ ¬ setting.isRepeatable then .error (.misuse (.repeatedSetting setting))
  else r.take setting value

def settle (r : Reading) : Except Stop Reading :=
  match r.waiting with
  | none => .ok r
  | some (setting, none) => .error (.misuse (.missingValue setting))
  | some (setting, some value) => { r with waiting := none }.give setting value

def await (r : Reading) (setting : Setting) : Except Stop Reading := do
  let r ← r.settle
  return { r with waiting := some (setting, none) }

def attached (r : Reading) (setting : Setting) (value : String) : Except Stop Reading := do
  let r ← r.settle
  r.give setting value

def raise (r : Reading) (flag : Flag) : Except Stop Reading := do
  let r ← r.settle
  if flag ∈ r.flags then throw (.misuse (.repeatedFlag flag))
  let raised := { r with flags := flag :: r.flags }
  match flag with
  | .help => throw .help
  | .version => throw .version
  | .test => return { raised with choices := { r.choices with staging := true } }
  | .verbose => return { raised with choices := { r.choices with verbose := true } }

/-! ## Arguments -/

/-- The failure for an argument that is not known. -/
def unknown (argument : String) : Except Stop Reading :=
  .error (.misuse (.unexpectedArgument argument))

/-- The part before the first equals sign, and the part behind it if there is one. -/
def cutAtEquals (cs : List Char) : String × Option String :=
  match cs.span (· != '=') with
  | (name, []) => (String.ofList name, none)
  | (name, _ :: value) => (String.ofList name, some (String.ofList value))

/-- Reads an argument with a long name, without its two dashes. -/
def long (r : Reading) (cs : List Char) : Except Stop Reading :=
  let (name, value) := cutAtEquals cs
  match Setting.all.find? (·.long == name), Flag.all.find? (·.long == name), value with
  | some setting, _, some value => r.attached setting value
  | some setting, _, none => r.await setting
  | none, some flag, some value => .error (.misuse (.unexpectedValue flag value))
  | none, some flag, none => r.raise flag
  | none, none, _ => unknown ("--" ++ name)

/-- Reads an argument with short names, without its dash. What follows the name of a setting is its
value; an equals sign before that does not count. -/
def short (r : Reading) : List Char → Except Stop Reading
  | [] => .ok r
  | c :: rest =>
    match Setting.all.find? (·.short? == some c), Flag.all.find? (·.short == c) with
    | some setting, _ =>
      match rest with
      | [] => r.await setting
      | '=' :: value => r.attached setting (String.ofList value)
      | value => r.attached setting (String.ofList value)
    | none, some flag => do
      let r ← r.raise flag
      r.short rest
    | none, none => unknown (String.ofList ['-', c])

/-- Reads an argument that is no name: the value of a setting that waits for one. -/
def plain (r : Reading) (argument : String) : Except Stop Reading :=
  match r.waiting with
  | some (setting, none) => .ok { r with waiting := some (setting, some argument) }
  | _ => unknown argument

def argument (r : Reading) (argument : String) : Except Stop Reading :=
  match argument.toList with
  | '-' :: '-' :: name => r.long name
  | '-' :: c :: names => r.short (c :: names)
  | _ => r.plain argument

/-- Reads arguments. Two dashes alone end the names, and nothing may stand behind them. -/
def arguments (r : Reading) : List String → Except Stop Reading
  | [] => r.settle
  | "--" :: [] => r.settle
  | "--" :: argument :: _ => unknown argument
  | argument :: rest => do
    let r ← r.argument argument
    r.arguments rest

/-! ## The environment -/

/-- Takes a setting from the environment unless it was given. -/
def fromEnvironment (environment : List (String × String)) (r : Reading) (setting : Setting) :
    Except Stop Reading :=
  if setting ∈ r.given then .ok r
  else
    match setting.environmentName?.bind fun name => List.lookup name environment with
    | none => .ok r
    | some value => r.take setting value

end Reading

/-- What arguments and environment ask for. There must be a domain. -/
def choicesOf (arguments : List String) (environment : List (String × String)) :
    Except Stop Choices := do
  let r ← ({} : Reading).arguments arguments
  let r ← Setting.all.foldlM (Reading.fromEnvironment environment) r
  if .domain ∈ r.given then return r.choices else throw (.misuse .missingDomain)

/-! ## Invocations -/

/-- What is to be run, and how it is logged. -/
structure Invocation where
  verbose : Bool
  logFormat : LogFormat
  config : Config
  deriving DecidableEq, Repr

/-- The configuration that choices make; what is not chosen is as in production. A blank contact
counts as none. -/
def Choices.config (choices : Choices) : Config :=
  let defaults : Config := { domains := choices.domains }
  { defaults with
    email := choices.email.filter fun email => Text.trimmed email ≠ ""
    accountKey := choices.accountKey.getD defaults.accountKey
    destination := choices.destination.getD defaults.destination
    caUrl := Acme.caUrl choices.caUrl choices.staging
    agreement := choices.agreement.getD defaults.agreement
    httpBind := ⟨.v4 0 0 0 0, choices.httpPort.getD defaultHttpPort⟩
    accountKeyBits := choices.accountKeyBits.getD defaults.accountKeyBits
    certKeyBits := choices.certKeyBits.getD defaults.certKeyBits
    policy :=
      { intervalMs := (choices.pollIntervalSecs.map (1000 * ·)).getD defaults.policy.intervalMs
        maxPolls := choices.maxPolls.getD defaults.policy.maxPolls } }

def Invocation.read (arguments : List String) (environment : List (String × String)) :
    Except Stop Invocation := do
  let choices ← choicesOf arguments environment
  return ⟨choices.verbose, choices.logFormat, choices.config⟩

end Acme.CommandLine
