/-!
# Failures of key handling

What can go wrong between a PEM text and a signature or certificate request, and the text that
tells it.

Main definitions: `CryptoError` and `CryptoError.message`.
-/

namespace Acme

/-- A failure of key handling. -/
inductive CryptoError
  /-- No key of this many bits can be made. -/
  | keyGeneration (bits : Nat)
  /-- The text holds no usable RSA key in either form. -/
  | keyParse
  /-- The key has no standard form: its factors are not coprime, or the form is too long. -/
  | keyEncoding
  /-- The key cannot sign. -/
  | signing
  /-- A certificate request needs a name. -/
  | noDomain
  /-- Certificate requests are signed by keys of other sizes only. -/
  | unusableKey
  /-- The name cannot stand in a certificate request. -/
  | unusableName (name : String)
  deriving DecidableEq, Repr

def CryptoError.message : CryptoError → String
  | .keyGeneration bits =>
    "Failed to generate RSA key: no key of " ++ toString bits
      ++ " bits has the public exponent 65537"
  | .keyParse => "Failed to parse RSA private key: not PKCS#8 or PKCS#1"
  | .keyEncoding => "Failed to encode RSA private key: the prime factors are not coprime"
  | .signing => "Failed to sign data: the modulus is too small or its factors are no primes"
  | .noDomain => "Failed to create certificate signing request: at least one domain is required"
  | .unusableKey =>
    "Failed to create certificate signing request: unusable key: size or public exponent"
  | .unusableName name =>
    "Failed to create certificate signing request: the name " ++ name ++ " is not ASCII"

end Acme
