import Acme.CryptoError
import Acme.Text
import Acme.Net.Address
import Acme.Rsa.Signature

/-!
# Certificate requests

PKCS#10 requests (RFC 2986) over a list of domains: the first domain is the common name of the
subject, and every domain is listed as a subject alternative name, in order. A domain that is the
notation of an internet address is listed as that address.

Main definitions: `AltName`, `CertificateRequest` with `infoDer` and `der`, and
`CertificateRequest.create`.
-/

namespace Acme

/-- An entry of the subject alternative name. -/
inductive AltName
  | dns (name : String)
  | address (octets : Octets)
  deriving DecidableEq, Repr

namespace AltName

/-- The entry for a domain; the characters of a name must be ASCII. -/
def ofDomain? (domain : String) : Option AltName :=
  match IpAddress.parse? domain with
  | some ip => some (.address ip.octets)
  | none => if Text.isAscii domain.toList then some (.dns domain) else none

/-- dNSName has tag 2 and iPAddress tag 7, both implicit. -/
def der : AltName → Octets
  | .dns name => Der.element 0x82 (Octets.ofText name)
  | .address octets => Der.element 0x87 octets

end AltName

/-- What a certificate request says, and its signature. -/
structure CertificateRequest where
  commonName : String
  publicKey : Rsa.PublicKey
  altNames : List AltName
  signature : Octets
  deriving DecidableEq, Repr

namespace CertificateRequest

/-! ## Encoding -/

/-- The object identifier of the common name, 2.5.4.3. -/
def commonNameId : Octets := [0x55, 0x04, 0x03]

/-- The object identifier extensionRequest, 1.2.840.113549.1.9.14. -/
def extensionRequestId : Octets :=
  [0x2A, 0x86, 0x48, 0x86, 0xF7, 0x0D, 0x01, 0x09, 0x0E]

/-- The object identifier subjectAltName, 2.5.29.17. -/
def subjectAltNameId : Octets := [0x55, 0x1D, 0x11]

/-- The object identifier sha256WithRSAEncryption, 1.2.840.113549.1.1.11. -/
def sha256WithRsaId : Octets :=
  [0x2A, 0x86, 0x48, 0x86, 0xF7, 0x0D, 0x01, 0x01, 0x0B]

def identifier (id : Octets) : Octets :=
  Der.element Der.objectIdentifierTag id

def subjectDer (commonName : String) : Octets :=
  Der.sequence [Der.set [Der.sequence
    [identifier commonNameId, Der.element Der.utf8StringTag (Octets.ofText commonName)]]]

def publicKeyDer (key : Rsa.PublicKey) : Octets :=
  Der.sequence
    [Der.element Der.sequenceTag Rsa.PrivateKey.algorithmContent,
      Der.bitString (Der.sequence [Der.natural key.modulus, Der.natural key.exponent])]

/-- The attributes: the extensions asked for, of which the alternative names are the only one. -/
def attributesDer (altNames : List AltName) : Octets :=
  Der.element 0xA0 <| Der.sequence
    [identifier extensionRequestId,
      Der.set [Der.sequence [Der.sequence
        [identifier subjectAltNameId,
          Der.element Der.octetStringTag (Der.sequence (altNames.map AltName.der))]]]]

/-- The part of a request that is signed. -/
def infoDer (commonName : String) (key : Rsa.PublicKey) (altNames : List AltName) : Octets :=
  Der.sequence
    [Der.natural 0, subjectDer commonName, publicKeyDer key, attributesDer altNames]

def der (request : CertificateRequest) : Octets :=
  Der.sequence
    [infoDer request.commonName request.publicKey request.altNames,
      Der.sequence [identifier sha256WithRsaId, Der.null],
      Der.bitString request.signature]

/-! ## Creation -/

/-- The keys that requests may be signed with: 2048 to 4096 bits, a public exponent of at least
65537, and two factors of half the size, which is a multiple of 512 bits. -/
def AcceptsKey (k : Rsa.PrivateKey) : Prop :=
  let bits := bitLength k.modulus
  2048 ≤ bits ∧ bits ≤ 4096 ∧ 65537 ≤ k.publicExponent
    ∧ 2 * bitLength k.prime1 = bits ∧ 2 * bitLength k.prime2 = bits
    ∧ bitLength k.prime1 % 512 = 0

instance (k : Rsa.PrivateKey) : Decidable (AcceptsKey k) := by
  unfold AcceptsKey; infer_instance

/-- The entries for a list of domains; the first unusable domain is the error. -/
def altNamesOf : List String → Except CryptoError (List AltName)
  | [] => .ok []
  | domain :: rest =>
    match AltName.ofDomain? domain with
    | none => .error (.unusableName domain)
    | some name => (altNamesOf rest).map (name :: ·)

/-- The request over `domains` signed with the key in a PEM text. -/
def create (keyPem : String) (domains : List String) : Except CryptoError CertificateRequest :=
  match domains with
  | [] => .error .noDomain
  | primary :: _ =>
    match Rsa.PrivateKey.ofPem? keyPem with
    | none => .error .keyParse
    | some key =>
      if key.pkcs8Pem? = none then .error .keyEncoding
      else if ¬ AcceptsKey key then .error .unusableKey
      else
        match altNamesOf domains with
        | .error e => .error e
        | .ok names =>
          match key.sign? (infoDer primary key.publicKey names) with
          | none => .error .signing
          | some signature => .ok ⟨primary, key.publicKey, names, signature⟩

end CertificateRequest

end Acme
