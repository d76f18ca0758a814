import Acme.Pem
import Acme.Der

/-!
# RSA keys

Public and private RSA keys, the PKCS#1 and PKCS#8 forms of a private key, and PEM texts that hold
one. A private key carries the proof that its numbers belong together.

Main definitions: `PublicKey`, `KeyNumbers` and the condition `KeyNumbers.Consistent`,
`PrivateKey`, `PrivateKey.ofPem?` and `PrivateKey.pkcs8Pem?`.
-/

namespace Acme.Rsa

/-! ## Arithmetic -/

/-- The power `base ^ exponent` modulo `m`, by repeated squaring. -/
def powMod (base exponent m : Nat) : Nat :=
  if exponent = 0 then 1 % m
  else
    let half := powMod (base * base % m) (exponent / 2) m
    if exponent % 2 = 1 then base * half % m else half
termination_by exponent
decreasing_by omega

/-- Numbers `x` and the greatest common divisor `g` with `a * x ≡ g` modulo `m`, by Euclid's
algorithm on the pairs `(r, s)` with `a * s ≡ r`. -/
def bezout (r₀ : Nat) (s₀ : Int) (r₁ : Nat) (s₁ : Int) : Nat × Int :=
  if _h : r₁ = 0 then (r₀, s₀)
  else bezout r₁ s₁ (r₀ % r₁) (s₀ - (r₀ / r₁ : Nat) * s₁)
termination_by r₁
decreasing_by exact Nat.mod_lt _ (Nat.pos_of_ne_zero _h)

/-- The inverse of `a` modulo `m`, if `a` and `m` have no common divisor. -/
def inverseMod? (a m : Nat) : Option Nat :=
  match bezout (a % m) 1 m 0 with
  | (1, x) => some (x % (m : Int)).toNat
  | _ => none

/-! ## Keys -/

/-- The public half of a key. -/
structure PublicKey where
  modulus : Nat
  exponent : Nat
  deriving DecidableEq, Repr

/-- The numbers that a private key consists of. -/
structure KeyNumbers where
  modulus : Nat
  publicExponent : Nat
  privateExponent : Nat
  prime1 : Nat
  prime2 : Nat
  deriving DecidableEq, Repr

/-- The largest public exponent in use, of 33 bits. -/
def maxPublicExponent : Nat := 0x1FFFFFFFF

/-- The numbers belong together: the modulus is odd and the product of the two factors, the public
exponent is odd and in range, and the exponents undo each other modulo each factor less one. -/
def KeyNumbers.Consistent (k : KeyNumbers) : Prop :=
  k.modulus = k.prime1 * k.prime2 ∧ 1 < k.prime1 ∧ 1 < k.prime2 ∧ k.modulus % 2 = 1
    ∧ k.publicExponent < k.modulus ∧ k.publicExponent % 2 = 1 ∧ 2 ≤ k.publicExponent
    ∧ k.publicExponent ≤ maxPublicExponent
    ∧ k.publicExponent * k.privateExponent % (k.prime1 - 1) = 1
    ∧ k.publicExponent * k.privateExponent % (k.prime2 - 1) = 1

instance (k : KeyNumbers) : Decidable k.Consistent := by
  unfold KeyNumbers.Consistent; infer_instance

/-- A private key whose numbers belong together. -/
structure PrivateKey extends KeyNumbers where
  consistent : toKeyNumbers.Consistent

namespace PrivateKey

instance : DecidableEq PrivateKey := fun a b =>
  decidable_of_iff (a.toKeyNumbers = b.toKeyNumbers)
    ⟨fun h => by cases a; cases b; simp_all, fun h => h ▸ rfl⟩

def publicKey (k : PrivateKey) : PublicKey :=
  ⟨k.modulus, k.publicExponent⟩

/-- The number of octets of the modulus, and of every signature. -/
def size (k : PrivateKey) : Nat :=
  Octets.lengthOfNat k.modulus

/-- The inverse of the second factor modulo the first one, if it has one. -/
def coefficient? (k : PrivateKey) : Option Nat :=
  inverseMod? k.prime2 k.prime1

/-- The key made of these numbers, if they belong together. -/
def ofNumbers? (k : KeyNumbers) : Option PrivateKey :=
  if h : k.Consistent then some ⟨k, h⟩ else none

/-! ## PKCS#1 -/

def rsaEncryption : Octets :=
  [0x2A, 0x86, 0x48, 0x86, 0xF7, 0x0D, 0x01, 0x01, 0x01]

/-- The algorithm identifier of RSA keys: rsaEncryption with NULL parameters. -/
def algorithmContent : Octets :=
  Der.element Der.objectIdentifierTag rsaEncryption ++ Der.null

/-- The PKCS#1 form: version 0 and eight numbers. -/
def pkcs1? (k : PrivateKey) : Option Octets := do
  let coefficient ← k.coefficient?
  return Der.sequence <| [0, k.modulus, k.publicExponent, k.privateExponent, k.prime1, k.prime2,
    k.privateExponent % (k.prime1 - 1), k.privateExponent % (k.prime2 - 1),
    coefficient].map Der.natural

/-- Reads the PKCS#1 form. The last three numbers must be there; their values do not matter, since
they follow from the others. -/
def ofPkcs1? (bytes : Octets) : Option PrivateKey := do
  let content ← Der.whole? Der.sequenceTag bytes
  match ← Der.readNaturals? 9 content with
  | ([0, n, e, d, p, q, _, _, _], []) => ofNumbers? ⟨n, e, d, p, q⟩
  | _ => none

/-! ## PKCS#8 -/

/-- Version 0, the algorithm, and the PKCS#1 form in an OCTET STRING. -/
def wrapped (inner : Octets) : Octets :=
  Der.sequence [Der.natural 0, Der.element Der.sequenceTag algorithmContent,
    Der.element Der.octetStringTag inner]

/-- The PKCS#8 form. There is none when the PKCS#1 form does not exist or is too long. -/
def pkcs8? (k : PrivateKey) : Option Octets := do
  let form := wrapped (← k.pkcs1?)
  guard (form.length ≤ Der.maxLength)
  return form

def contextNumber? (tag : UInt8) : Option Nat :=
  if 0x80 ≤ tag ∧ tag < 0xC0 ∧ tag &&& 0x1F ≠ 0x1F then some (tag &&& 0x1F).toNat else none

/-- Skips the elements with context-specific number 0, the attributes of the key. -/
def skipAttributes? (fuel : Nat) (bytes : Octets) : Option Octets :=
  match fuel, bytes with
  | fuel + 1, tag :: _ =>
    if contextNumber? tag = some 0 then do
      let (_, _, rest) ← Der.readElement? bytes
      skipAttributes? fuel rest
    else some bytes
  | _, _ => some bytes

/-- The content of a BIT STRING whose unused bits are as many as its first octet says. -/
def IsBitString (content : Octets) : Prop :=
  match content with
  | [] => False
  | unused :: bits => unused < 8 ∧ (bits = [] → unused = 0)

instance (content : Octets) : Decidable (IsBitString content) := by
  unfold IsBitString; split <;> infer_instance

/-- Every remaining element is an explicitly tagged field that holds one element. -/
def onlyExtensions (fuel : Nat) (bytes : Octets) : Bool :=
  match fuel, bytes with
  | _, [] => true
  | 0, _ => false
  | fuel + 1, bytes =>
    match Der.readElement? bytes with
    | some (tag, content, rest) =>
      (contextNumber? tag).isSome && tag &&& 0x20 != 0
        && (match Der.readElement? content with
            | some (_, _, []) => true
            | _ => false)
        && onlyExtensions fuel rest
    | none => false

/-- The fields after the key itself: attributes may come first, a public key belongs to version 1
and only to it, and extension fields may follow. -/
def tailIsValid (version : Nat) (bytes : Octets) : Bool :=
  match skipAttributes? bytes.length bytes with
  | none => false
  | some rest =>
    match Der.readElement? rest with
    | some (tag, content, more) =>
      if contextNumber? tag = some 1 then
        version == 1 && tag &&& 0x20 == 0 && decide (IsBitString content)
          && onlyExtensions more.length more
      else version == 0 && onlyExtensions rest.length rest
    | none => version == 0 && rest.isEmpty

def ofPkcs8? (bytes : Octets) : Option PrivateKey := do
  let content ← Der.whole? Der.sequenceTag bytes
  let (version, content) ← Der.readNatural? content
  guard (version ≤ 1)
  let (algorithm, content) ← Der.readTagged? Der.sequenceTag content
  let (inner, tail) ← Der.readTagged? Der.octetStringTag content
  guard (tailIsValid version tail)
  guard (algorithm = algorithmContent)
  ofPkcs1? inner

/-! ## PEM texts -/

def pkcs8Label : String := "PRIVATE KEY"

def pkcs1Label : String := "RSA PRIVATE KEY"

/-- The key in a PEM text of either form. -/
def ofPem? (pem : String) : Option PrivateKey :=
  ((Pem.decode? pkcs8Label pem).bind ofPkcs8?) <|> ((Pem.decode? pkcs1Label pem).bind ofPkcs1?)

def pkcs8Pem? (k : PrivateKey) : Option String :=
  k.pkcs8?.map (Pem.encode pkcs8Label)

end PrivateKey

end Acme.Rsa
