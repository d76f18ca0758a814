import Acme.Proofs.Envelope
import Acme.Proofs.Json.Values
import Acme.Proofs.Rsa

/-!
# What a signed request says

The body of a signed request is taken apart the way a CA does it, with nothing but the alphabet of
base 64, the grammar of JSON and the arithmetic of RSA: the four members of the envelope, the
protected part with the same web key and the nonce, the payload, and a signature whose power is the
padded digest of what was signed (`signedRequest_opens`).

Main definitions: `Received`, what is taken from a body, and `Received.Opens`.
-/

namespace Acme

open Json

/-- The JSON value in URL-safe base 64 digits. -/
def Json.Value.ofUrl? (digits : String) : Option Value := do
  Value.ofOctets? (← Base64.decode? .urlSafe digits.toList)

theorem ofUrl?_url (v : Value) : Value.ofUrl? (Base64.url v.toOctets) = some v := by
  rw [Value.ofUrl?, Base64.decode?_url]
  exact ofOctets?_toOctets v

/-! ## What is taken from a body -/

/-- The texts in the body of a signed request, and the octets that three of them stand for. -/
structure Received where
  exponentText : String
  modulusText : String
  protectedText : String
  payloadText : String
  signatureText : String
  exponent : Octets
  modulus : Octets
  signature : Octets

namespace Received

/-- The public key of the signer. -/
def webKey (r : Received) : Value :=
  .object [("e", .text r.exponentText), ("kty", .text "RSA"), ("n", .text r.modulusText)]

/-- The body: four members and no others. -/
def envelope (r : Received) : Value :=
  .object [("header", .object [("alg", .text "RS256"), ("jwk", r.webKey)]),
    ("protected", .text r.protectedText),
    ("payload", .text r.payloadText),
    ("signature", .text r.signatureText)]

/-- The protected part, with the web key of the header. -/
def protectedPart (r : Received) (nonce : String) : Value :=
  .object [("alg", .text "RS256"), ("jwk", r.webKey), ("nonce", .text nonce)]

/-- What the signature is over. -/
def signed (r : Received) : Octets :=
  Octets.ofText (r.protectedText ++ "." ++ r.payloadText)

/-- These are the parts of the request, they say what it was made from, and the signature is good:
as long as the modulus and below it, and raised to the exponent the encoded digest. -/
structure Opens (r : Received) (account : Account) (nonce : String) (payload : Payload)
    (request : Http.Request) : Prop where
  envelope : request.body.bind Value.ofOctets? = some r.envelope
  protectedPart : Value.ofUrl? r.protectedText = some (r.protectedPart nonce)
  payload : Value.ofUrl? r.payloadText = some payload.toJson
  exponent : Base64.decode? .urlSafe r.exponentText.toList = some r.exponent
  modulus : Base64.decode? .urlSafe r.modulusText.toList = some r.modulus
  signature : Base64.decode? .urlSafe r.signatureText.toList = some r.signature
  shortest : r.exponent.head? ≠ some 0 ∧ r.modulus.head? ≠ some 0
  key : Octets.toNat r.exponent = account.key.publicExponent
    ∧ Octets.toNat r.modulus = account.key.modulus
  length : r.signature.length = r.modulus.length
  range : Octets.toNat r.signature < Octets.toNat r.modulus
  power : ∃ encoded, Rsa.IsEncoding (Sha256.digest r.signed) encoded
    ∧ encoded.length = r.modulus.length
    ∧ Octets.toNat r.signature ^ Octets.toNat r.exponent % Octets.toNat r.modulus
      = Octets.toNat encoded

end Received

/-! ## Taking a body apart -/

/-- The parts that a request is put together from. -/
def Account.received (account : Account) (nonce : String) (payload : Payload)
    (signature : Octets) : Received where
  exponentText := account.webKey.exponent
  modulusText := account.webKey.modulus
  protectedText := Base64.url (ProtectedPart.mk account.webKey nonce).toJson.toOctets
  payloadText := Base64.url payload.toJson.toOctets
  signatureText := Base64.url signature
  exponent := Octets.ofNat account.key.publicExponent
  modulus := Octets.ofNat account.key.modulus
  signature := signature

section
variable {account : Account} {nonce url : String} {payload : Payload} {request : Http.Request}

/-- A request is made from its parts, and what is signed is made from them too. -/
theorem signedRequest_eq_received (h : account.signedRequest nonce url payload = .ok request) :
    request.method = .post ∧ request.url = url ∧ ∃ signature,
      account.key.sign? (account.received nonce payload signature).signed = some signature
        ∧ request.body = some (account.received nonce payload signature).envelope.toOctets := by
  obtain ⟨_, envelope, hseal, rfl⟩ := signedRequest_eq_ok h
  obtain ⟨signature, hsign, hseal⟩ := Option.bind_eq_some_iff.1 hseal
  cases hseal
  exact ⟨rfl, rfl, signature, hsign, rfl⟩

theorem signedRequest_opens (h : account.signedRequest nonce url payload = .ok request) :
    request.method = .post ∧ request.url = url
      ∧ ∃ received : Received, received.Opens account nonce payload request := by
  obtain ⟨hmethod, hurl, signature, hsign, hbody⟩ := signedRequest_eq_received h
  obtain ⟨encoded, hencoded, hpower⟩ := Rsa.PrivateKey.toNat_of_sign? hsign
  obtain ⟨hdigest, hsize⟩ := Rsa.isEncoding_of_encodedDigest? hencoded
  have hmodulus : (Octets.ofNat account.key.modulus).length = account.key.size :=
    Octets.length_ofNat _
  refine ⟨hmethod, hurl, account.received nonce payload signature, ?_⟩
  constructor
  case envelope =>
    rw [hbody]
    exact ofOctets?_toOctets _
  case protectedPart => exact ofUrl?_url _
  case payload => exact ofUrl?_url _
  case exponent => exact Base64.decode?_url _
  case modulus => exact Base64.decode?_url _
  case signature => exact Base64.decode?_url _
  case shortest =>
    exact ⟨Octets.head?_ofNat_ne_zero account.key.publicExponent_pos,
      Octets.head?_ofNat_ne_zero account.key.modulus_pos⟩
  case key => exact ⟨Octets.toNat_ofNat _, Octets.toNat_ofNat _⟩
  case length => exact (Rsa.PrivateKey.length_of_sign? hsign).trans hmodulus.symm
  case range =>
    rw [Account.received, Octets.toNat_ofNat]
    exact Rsa.PrivateKey.toNat_lt_of_sign? hsign
  case power =>
    refine ⟨encoded, hdigest, hsize.trans hmodulus.symm, ?_⟩
    rw [Account.received, Octets.toNat_ofNat, Octets.toNat_ofNat]
    exact hpower

end

/-- An account whose key has 512 bits; both primes leave 2 when divided by 3. -/
def smallAccount : Account :=
  let prime1 := 2 ^ 256 - 587
  let prime2 := 2 ^ 256 - 617
  ⟨⟨⟨prime1 * prime2, 3, (2 * ((prime1 - 1) * (prime2 - 1)) + 1) / 3, prime1, prime2⟩, by decide⟩⟩

theorem signedRequest_opens_smallAccount :
    ∃ request, smallAccount.signedRequest "n\"1" "https://ca/new-authz"
        (.newAuthorization "é.org") = .ok request
      ∧ request.method = .post ∧ request.url = "https://ca/new-authz"
      ∧ ∃ received : Received,
        received.Opens smallAccount "n\"1" (.newAuthorization "é.org") request := by
  have hsigns : (smallAccount.signedRequest "n\"1" "https://ca/new-authz"
      (.newAuthorization "é.org")).isOk = true := by decide +kernel
  cases hrequest : smallAccount.signedRequest "n\"1" "https://ca/new-authz"
      (.newAuthorization "é.org") with
  | error e =>
    rw [hrequest] at hsigns
    cases hsigns
  | ok request => exact ⟨request, rfl, signedRequest_opens hrequest⟩

end Acme
