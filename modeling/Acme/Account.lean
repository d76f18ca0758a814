import Acme.Base64
import Acme.Json.Document
import Acme.Json.Value
import Acme.Rsa.Signature

/-!
# Accounts

An account at the CA is an RSA key. Its public half travels as a JSON Web Key (RFC 7517), and the
digest of that object, the thumbprint (RFC 7638), stands for the key in key authorizations.

Main definitions: `WebKey`, `Account.ofPem?`, `Account.thumbprint` and
`Account.keyAuthorization`.
-/

namespace Acme

/-! ## Web keys -/

/-- The public half of an RSA key: both numbers as big-endian octets in URL-safe base 64. -/
structure WebKey where
  exponent : String
  modulus : String
  deriving DecidableEq, Repr

namespace WebKey

def ofPublicKey (key : Rsa.PublicKey) : WebKey :=
  ⟨Base64.url (Octets.ofNat key.exponent), Base64.url (Octets.ofNat key.modulus)⟩

/-- The kind of key that a web key names. -/
def keyType : String := "RSA"

/-- The JSON object, with its members in the order of their names. -/
def toJson (key : WebKey) : Json.Value :=
  .object [("e", .text key.exponent), ("kty", .text keyType), ("n", .text key.modulus)]

/-- The web key that a JSON object describes. -/
def ofDocument? (v : Json.Document) : Option WebKey := do
  match ← v.fields? ["e", "kty", "n"] with
  | [some e, some kind, some n] =>
    guard ((← kind.text?) = keyType)
    return ⟨← e.text?, ← n.text?⟩
  | _ => none

/-- The number that URL-safe base 64 digits stand for. -/
def number? (digits : String) : Option Nat :=
  (Base64.decode? .urlSafe digits.toList).map Octets.toNat

/-- The public key that a web key describes. -/
def publicKey? (key : WebKey) : Option Rsa.PublicKey :=
  return ⟨← number? key.modulus, ← number? key.exponent⟩

/-- The digest of the JSON text in URL-safe base 64. -/
def thumbprint (key : WebKey) : String :=
  Base64.url (Sha256.digest key.toJson.toOctets)

end WebKey

/-! ## Accounts -/

/-- An account: the key that signs its requests. -/
structure Account where
  key : Rsa.PrivateKey
  deriving DecidableEq

namespace Account

/-- The account whose key a PEM text holds. -/
def ofPem? (pem : String) : Option Account :=
  (Rsa.PrivateKey.ofPem? pem).map Account.mk

def webKey (account : Account) : WebKey :=
  WebKey.ofPublicKey account.key.publicKey

/-- What stands for the key in key authorizations. -/
def thumbprint (account : Account) : String :=
  account.webKey.thumbprint

/-- What the CA expects to be served for a token. -/
def keyAuthorization (account : Account) (token : String) : String :=
  token ++ "." ++ account.thumbprint

end Account

end Acme
