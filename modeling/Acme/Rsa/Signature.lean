import Acme.Rsa.Key
import Acme.Sha256

/-!
# RS256 signatures

RSASSA-PKCS1-v1_5 with SHA-256 (RFC 8017, section 8.2): the digest is padded to the length of the
modulus and raised to the private exponent.

Main definitions: `encodedDigest?` (the padding), `PrivateKey.sign?` and `PublicKey.Verifies`.
-/

namespace Acme.Rsa

/-! ## Padding -/

/-- The DER head of a SHA-256 digest: the algorithm identifier, and the tag and length of the
OCTET STRING that the digest fills. -/
def digestHead : Octets :=
  [0x30, 0x31, 0x30, 0x0D, 0x06, 0x09, 0x60, 0x86, 0x48, 0x01, 0x65, 0x03, 0x04, 0x02, 0x01, 0x05,
   0x00, 0x04, 0x20]

/-- The digest of a message with its head, filled up in front to `size` octets; none when fewer
than eight octets of filling would fit. -/
def encodedDigest? (size : Nat) (message : Octets) : Option Octets :=
  let tail := digestHead ++ Sha256.digest message
  if size < tail.length + 11 then none
  else
    some (0x00 :: 0x01 :: List.replicate (size - tail.length - 3) 0xFF ++ 0x00 :: tail)

/-! ## Signing -/

namespace PrivateKey

/-- A root of `c`: the power with the private exponent, taken modulo each factor and recombined
where the second factor is invertible modulo the first one. -/
def root (k : PrivateKey) (c : Nat) : Nat :=
  match k.coefficient? with
  | some coefficient =>
    let m₁ := powMod c (k.privateExponent % (k.prime1 - 1)) k.prime1
    let m₂ := powMod c (k.privateExponent % (k.prime2 - 1)) k.prime2
    let difference := (m₁ + (k.prime1 - m₂ % k.prime1)) % k.prime1
    difference * coefficient % k.prime1 * k.prime2 + m₂
  | none => powMod c k.privateExponent k.modulus

/-- The signature of a message: as many octets as the modulus has. There is none when the modulus
is too small for the padding, or when the factors are no primes and the root fails its check. -/
def sign? (k : PrivateKey) (message : Octets) : Option Octets := do
  let padded ← encodedDigest? k.size message
  let c := Octets.toNat padded
  let m := k.root c
  guard (powMod m k.publicExponent k.modulus = c)
  return Octets.ofNatPadded k.size m

end PrivateKey

/-! ## Verification -/

/-- The signature is as long as the modulus, it is below it as a number, and raised to the public
exponent it gives the padded digest of the message. -/
def PublicKey.Verifies (k : PublicKey) (message signature : Octets) : Prop :=
  signature.length = Octets.lengthOfNat k.modulus
    ∧ Octets.toNat signature < k.modulus
    ∧ (encodedDigest? signature.length message).map Octets.toNat
      = some (powMod (Octets.toNat signature) k.exponent k.modulus)

instance (k : PublicKey) (message signature : Octets) : Decidable (k.Verifies message signature) :=
  inferInstanceAs (Decidable (_ ∧ _))

end Acme.Rsa
