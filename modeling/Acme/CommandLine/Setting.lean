import Acme.CommandLine.Number
import Acme.Config

/-!
# Settings of the command line

What can be set on the command line: flags, and settings that take a value, some of which may come
from the environment too.

Main definitions: `Flag`, `Setting`, `UsageError`, `Choices` and `Setting.store`.
-/

namespace Acme.CommandLine

/-! ## Flags -/

/-- A switch without a value. -/
inductive Flag
  | test
  | verbose
  | help
  | version
  deriving DecidableEq, Repr

namespace Flag

def all : List Flag := [.test, .verbose, .help, .version]

def long : Flag → String
  | .test => "test"
  | .verbose => "verbose"
  | .help => "help"
  | .version => "version"

def short : Flag → Char
  | .test => 't'
  | .verbose => 'v'
  | .help => 'h'
  | .version => 'V'

def label (flag : Flag) : String := "--" ++ flag.long

def purpose : Flag → String
  | .test => "Use the Let's Encrypt staging CA"
  | .verbose => "Enable verbose logging (debug level)"
  | .help => "Print help"
  | .version => "Print version"

end Flag

/-! ## Settings -/

/-- Something that takes a value. -/
inductive Setting
  | domain
  | email
  | key
  | destDir
  | caUrl
  | agreement
  | httpPort
  | accountKeyBits
  | certKeyBits
  | pollIntervalSecs
  | maxPolls
  | logFormat
  deriving DecidableEq, Repr

namespace Setting

def all : List Setting :=
  [.domain, .email, .key, .destDir, .caUrl, .agreement, .httpPort, .accountKeyBits, .certKeyBits,
    .pollIntervalSecs, .maxPolls, .logFormat]

def long : Setting → String
  | .domain => "domain"
  | .email => "email"
  | .key => "key"
  | .destDir => "dest-dir"
  | .caUrl => "ca-url"
  | .agreement => "agreement"
  | .httpPort => "http-port"
  | .accountKeyBits => "account-key-bits"
  | .certKeyBits => "cert-key-bits"
  | .pollIntervalSecs => "poll-interval-secs"
  | .maxPolls => "max-polls"
  | .logFormat => "log-format"

/-- The short name, if there is one. -/
def short? : Setting → Option Char
  | .domain => some 'd'
  | .email => some 'e'
  | .key => some 'k'
  | .destDir => some 'o'
  | _ => none

def placeholder : Setting → String
  | .domain => "DOMAINS"
  | .email => "EMAIL"
  | .key => "ACCOUNT_KEY"
  | .destDir => "DEST_DIR"
  | .caUrl => "CA_URL"
  | .agreement => "AGREEMENT"
  | .httpPort => "HTTP_PORT"
  | .accountKeyBits => "ACCOUNT_KEY_BITS"
  | .certKeyBits => "CERT_KEY_BITS"
  | .pollIntervalSecs => "POLL_INTERVAL_SECS"
  | .maxPolls => "MAX_POLLS"
  | .logFormat => "LOG_FORMAT"

/-- The environment variable that gives the value when the command line does not. -/
def environmentName? : Setting → Option String
  | .domain => some "GETSSL_DOMAINS"
  | .email => some "GETSSL_EMAIL"
  | .key => some "GETSSL_ACCOUNT_KEY"
  | .destDir => some "GETSSL_DEST_DIR"
  | .caUrl => some "GETSSL_CA_URL"
  | .httpPort => some "GETSSL_HTTP_PORT"
  | _ => none

def label (setting : Setting) : String :=
  "--" ++ setting.long ++ " <" ++ setting.placeholder ++ ">"

def purpose : Setting → String
  | .domain => "Domain to certify; repeat for more names, the first is the primary"
  | .email => "Contact email used when registering the account"
  | .key => "Account key file, created if missing"
  | .destDir => "Directory receiving the certificate files"
  | .caUrl => "CA base URL, overrides --test"
  | .agreement => "Subscriber agreement URL sent at registration"
  | .httpPort => "Port of the HTTP-01 challenge responder"
  | .accountKeyBits => "Size of a newly created account key"
  | .certKeyBits => "Size of the certificate key"
  | .pollIntervalSecs => "Seconds between challenge polls"
  | .maxPolls => "Polls before a pending challenge is given up"
  | .logFormat => "Log output format"

/-- The setting may be given several times, which adds to it. -/
def isRepeatable (setting : Setting) : Bool :=
  setting == .domain

end Setting

/-! ## Misuse -/

/-- Why a command line cannot be understood. -/
inductive UsageError
  | unexpectedArgument (argument : String)
  | missingValue (setting : Setting)
  | badChoice (setting : Setting) (value : String)
  | badNumber (setting : Setting) (value : String) (fault : NumberFault)
  | repeatedSetting (setting : Setting)
  | repeatedFlag (flag : Flag)
  | unexpectedValue (flag : Flag) (value : String)
  | missingDomain
  deriving DecidableEq, Repr

/-- The first line of the words for misuse. -/
def UsageError.message : UsageError → String
  | .unexpectedArgument argument => "unexpected argument '" ++ argument ++ "' found"
  | .missingValue setting =>
    "a value is required for '" ++ setting.label ++ "' but none was supplied"
  | .badChoice setting value => "invalid value '" ++ value ++ "' for '" ++ setting.label ++ "'"
  | .badNumber setting value fault =>
    "invalid value '" ++ value ++ "' for '" ++ setting.label ++ "': " ++ fault.message
  | .repeatedSetting setting =>
    "the argument '" ++ setting.label ++ "' cannot be used multiple times"
  | .repeatedFlag flag => "the argument '" ++ flag.label ++ "' cannot be used multiple times"
  | .unexpectedValue flag value =>
    "unexpected value '" ++ value ++ "' for '" ++ flag.label ++ "' found; no more were expected"
  | .missingDomain => "the following required arguments were not provided:"

/-! ## Choices -/

/-- The form of the log. -/
inductive LogFormat
  | text
  | json
  deriving DecidableEq, Repr

/-- What a command line asks for; nothing that is not given has a default of its own. -/
structure Choices where
  domains : List String := []
  email : Option String := none
  accountKey : Option Path := none
  destination : Option Path := none
  caUrl : Option String := none
  agreement : Option String := none
  httpPort : Option UInt16 := none
  accountKeyBits : Option Nat := none
  certKeyBits : Option Nat := none
  pollIntervalSecs : Option Nat := none
  maxPolls : Option Nat := none
  logFormat : LogFormat := .text
  staging : Bool := false
  verbose : Bool := false
  deriving DecidableEq, Repr

namespace Setting

def nonempty (setting : Setting) (value : String) : Except UsageError String :=
  if value = "" then .error (.missingValue setting) else .ok value

def number (setting : Setting) (value : String) (read : String → Except NumberFault Nat) :
    Except UsageError Nat :=
  (read value).mapError (.badNumber setting value)

/-- The choices with a value for a setting. -/
def store (setting : Setting) (value : String) (choices : Choices) : Except UsageError Choices :=
  match setting with
  | .domain => .ok { choices with domains := choices.domains ++ value.splitOn "," }
  | .email => .ok { choices with email := some value }
  | .key => do
    let path ← setting.nonempty value
    return { choices with accountKey := some ⟨path⟩ }
  | .destDir => do
    let path ← setting.nonempty value
    return { choices with destination := some ⟨path⟩ }
  | .caUrl => .ok { choices with caUrl := some value }
  | .agreement => .ok { choices with agreement := some value }
  | .httpPort => do
    let port ← setting.number value (between? 1 65535)
    return { choices with httpPort := some (UInt16.ofNat port) }
  | .accountKeyBits => do
    let bits ← setting.number value natural?
    return { choices with accountKeyBits := some bits }
  | .certKeyBits => do
    let bits ← setting.number value natural?
    return { choices with certKeyBits := some bits }
  | .pollIntervalSecs => do
    let seconds ← setting.number value natural?
    return { choices with pollIntervalSecs := some seconds }
  | .maxPolls => do
    let polls ← setting.number value (between? 0 4294967295)
    return { choices with maxPolls := some polls }
  | .logFormat => do
    match ← setting.nonempty value with
    | "text" => return { choices with logFormat := .text }
    | "json" => return { choices with logFormat := .json }
    | _ => throw (.badChoice setting value)

end Setting

end Acme.CommandLine
