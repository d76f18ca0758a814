import Acme.Text

/-!
# Resources of a CA

Where a CA of the first protocol version is found: four fixed paths below a base URL.

Main definitions: `Endpoints.ofBase` and `caUrl`.
-/

namespace Acme

/-- The URLs of the resources of a CA. -/
structure Endpoints where
  directory : String
  newReg : String
  newAuthz : String
  newCert : String
  deriving DecidableEq, Repr

/-- The resources below a base URL; slashes at its end do not count. -/
def Endpoints.ofBase (base : String) : Endpoints :=
  let root := String.ofList (Text.dropEndWhile (· == '/') base.toList)
  { directory := root ++ "/directory"
    newReg := root ++ "/acme/new-reg"
    newAuthz := root ++ "/acme/new-authz"
    newCert := root ++ "/acme/new-cert" }

/-- The base URL of the CA that issues trusted certificates. -/
def productionUrl : String := "https://acme-v01.api.letsencrypt.org"

/-- The base URL of the CA for trials. -/
def stagingUrl : String := "https://acme-staging.api.letsencrypt.org"

/-- The base URL to use: the given one, or else the one for trials or production. -/
def caUrl (given : Option String) (staging : Bool) : String :=
  given.getD (if staging then stagingUrl else productionUrl)

end Acme
