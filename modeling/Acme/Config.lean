import Acme.Config.Email
import Acme.Config.Policy
import Acme.Endpoints
import Acme.FileSystem
import Acme.Url

/-!
# Configuration

Everything that a run needs to know, with the values for production as defaults, and the conditions
that a usable configuration meets.

Main definitions: `Config`, `Config.violations` and `Config.contact?`.
-/

namespace Acme

def defaultAgreement : String := "https://letsencrypt.org/documents/LE-SA-v1.0.1-July-27-2015.pdf"

def defaultHttpPort : UInt16 := 80

/-- What a run needs to know. -/
structure Config where
  /-- The domains of the certificate, the primary one first. -/
  domains : List String
  /-- The contact for registration. -/
  email : Option String := none
  /-- The file of the account key. -/
  accountKey : Path := ⟨"letsencrypt.key"⟩
  /-- The directory of the key and the certificates. -/
  destination : Path := ⟨"."⟩
  caUrl : String := productionUrl
  agreement : String := defaultAgreement
  /-- Where the responder listens. -/
  httpBind : Endpoint := ⟨.v4 0 0 0 0, defaultHttpPort⟩
  /-- The size of a new account key. -/
  accountKeyBits : Nat := 4096
  /-- The size of the certificate key. -/
  certKeyBits : Nat := 2048
  policy : PollPolicy := {}
  deriving DecidableEq, Repr

namespace Config

/-! ## Conditions -/

/-- A part of a configuration with conditions. -/
inductive Part
  | accountKeyBits
  | agreement
  | caUrl
  | certKeyBits
  | domains
  | email
  | maxPolls
  deriving DecidableEq, Repr

def Part.name : Part → String
  | .accountKeyBits => "account_key_bits"
  | .agreement => "agreement"
  | .caUrl => "ca_url"
  | .certKeyBits => "cert_key_bits"
  | .domains => "domains"
  | .email => "email"
  | .maxPolls => "max_polls"

/-- A condition that is not met. -/
inductive Violation
  | noDomain
  | badDomain (domain : String)
  | badEmail
  | badCaUrl
  | badAgreement
  /-- The size of a key, of which part it may be, is out of range. -/
  | badKeySize (part : Part)
  | noPoll
  deriving DecidableEq, Repr

namespace Violation

def part : Violation → Part
  | .noDomain => .domains
  | .badDomain _ => .domains
  | .badEmail => .email
  | .badCaUrl => .caUrl
  | .badAgreement => .agreement
  | .badKeySize part => part
  | .noPoll => .maxPolls

def code : Violation → String
  | .noDomain => "length"
  | .badDomain _ => "invalid_domain"
  | .badEmail => "email"
  | .badCaUrl => "url"
  | .badAgreement => "url"
  | .badKeySize _ => "range"
  | .noPoll => "range"

def message : Violation → String
  | .noDomain => "At least one domain is required"
  | .badDomain domain => "Invalid domain name '" ++ domain ++ "'"
  | .badEmail => "Invalid email address"
  | .badCaUrl => "Invalid CA URL"
  | .badAgreement => "Invalid agreement URL"
  | .badKeySize _ => "Key size must be between 2048 and 8192 bits"
  | .noPoll => "At least one poll is required"

end Violation

/-- A domain that can be asked for: not empty, no slash, no blanks. -/
def isDomain (domain : String) : Bool :=
  domain ≠ "" && domain.toList.all fun c => c != '/' && !Text.isBlank c

def isKeySize (bits : Nat) : Bool :=
  2048 ≤ bits && bits ≤ 8192

/-- The violation if a condition is not met. -/
def require (condition : Bool) (violation : Violation) : List Violation :=
  if condition then [] else [violation]

/-- The violations in the domains: the first bad one counts. -/
def domainViolations (domains : List String) : List Violation :=
  if domains = [] then [.noDomain]
  else
    match domains.find? fun d => !isDomain d with
    | some domain => [.badDomain domain]
    | none => []

/-- The violations of a configuration, in the order of the names of the parts. -/
def violations (config : Config) : List Violation :=
  require (isKeySize config.accountKeyBits) (.badKeySize .accountKeyBits)
    ++ require (Url.parse? config.agreement).isSome .badAgreement
    ++ require (Url.parse? config.caUrl).isSome .badCaUrl
    ++ require (isKeySize config.certKeyBits) (.badKeySize .certKeyBits)
    ++ domainViolations config.domains
    ++ require (config.email.all Email.isValid) .badEmail
    ++ require (1 ≤ config.policy.maxPolls) .noPoll

def IsValid (config : Config) : Prop :=
  config.violations = []

instance (config : Config) : Decidable config.IsValid :=
  inferInstanceAs (Decidable (_ = _))

/-- The words for a configuration that cannot be used. -/
def complaint (violations : List Violation) : String :=
  "Invalid configuration: "
    ++ "\n".intercalate (violations.map fun v => v.part.name ++ ": " ++ v.message)

/-! ## Views -/

/-- The contact for registration; a blank one counts as none. -/
def contact? (config : Config) : Option String :=
  (config.email.map Text.trimmed).filter (· ≠ "")

def endpoints (config : Config) : Endpoints :=
  Endpoints.ofBase config.caUrl

end Config

end Acme
