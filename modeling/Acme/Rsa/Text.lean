import Acme.CryptoError
import Acme.Rsa.Signature

/-!
# Keys in PEM texts

Keys are handed around as PEM texts, and a text is read anew whenever something is done with its
key.

Main definitions: `readKey`, `isValidKey`, `publicOctets`, `signWith` and `writeKey`.
-/

namespace Acme.Rsa

/-- What is missing is replaced by an error. -/
def orError {α : Type} (error : CryptoError) : Option α → Except CryptoError α
  | some x => .ok x
  | none => .error error

/-- The key that a text holds. -/
def readKey (pem : String) : Except CryptoError PrivateKey :=
  orError .keyParse (PrivateKey.ofPem? pem)

/-- The text holds a key, and its numbers belong together. -/
def isValidKey (pem : String) : Bool :=
  match readKey pem with
  | .ok key => decide key.Consistent
  | .error _ => false

/-- The modulus and the public exponent, most significant octet first and no zeros in front. -/
def publicOctets (pem : String) : Except CryptoError (Octets × Octets) :=
  (readKey pem).map fun key => (Octets.ofNat key.modulus, Octets.ofNat key.publicExponent)

/-- The signature of a message with the key in a text. -/
def signWith (pem : String) (message : Octets) : Except CryptoError Octets := do
  let key ← readKey pem
  orError .signing (key.sign? message)

/-- A key as PKCS#8 PEM. -/
def writeKey (key : PrivateKey) : Except CryptoError String :=
  orError .keyEncoding key.pkcs8Pem?

end Acme.Rsa
