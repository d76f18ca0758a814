import Acme.Envelope
import Acme.Proofs.Base64
import Acme.Proofs.Json.Reading

/-!
# Reading signed requests

The envelope, its protected part and its nonce are got back from the body of a signed request, so
what a request was built from can be read off what is sent (`signedNonce?_signedRequest`).
-/

namespace Acme

open Json

/-! ## Web keys and protected parts -/

theorem WebKey.ofDocument?_document (key : WebKey) :
    WebKey.ofDocument? key.toJson.document = some key := by
  rw [WebKey.ofDocument?, WebKey.toJson, fields?_document]
  simp [Document.pick?, guard]

theorem ProtectedPart.ofDocument?_document (part : ProtectedPart) :
    ProtectedPart.ofDocument? part.toJson.document = some part := by
  rw [ProtectedPart.ofDocument?, ProtectedPart.toJson, fields?_document]
  simp [Document.pick?, headerMembers, WebKey.ofDocument?_document, guard]

/-! ## Envelopes -/

namespace Envelope

theorem headerKey?_document (key : WebKey) :
    headerKey? (Value.object (headerMembers key)).document = some key := by
  rw [headerKey?, fields?_document]
  simp [Document.pick?, headerMembers, WebKey.ofDocument?_document, guard]

theorem ofBody?_toOctets (envelope : Envelope) :
    ofBody? envelope.toJson.toOctets = some envelope := by
  rw [ofBody?, parse?_toOctets, Option.bind_eq_bind, Option.bind_some, toJson, fields?_document]
  simp [Document.pick?, headerKey?_document]

theorem protectedPart?_seal? {account : Account} {nonce : String} {payload : Payload}
    {envelope : Envelope} (h : account.seal? nonce payload = some envelope) :
    envelope.protectedPart? = some ⟨account.webKey, nonce⟩ := by
  obtain ⟨signature, _, he⟩ := Option.bind_eq_some_iff.1 h
  cases he
  rw [protectedPart?, Base64.decode?_url]
  simp [parse?_toOctets, ProtectedPart.ofDocument?_document]

end Envelope

/-! ## Signed requests -/

/-- The nonce in the protected part of a signed request; requests that are no POST have none. -/
def Http.Request.signedNonce? (request : Http.Request) : Option String := do
  guard (request.method = .post)
  let part ← (← Envelope.ofBody? (← request.body)).protectedPart?
  return part.nonce

section
variable {account : Account} {nonce url : String} {payload : Payload} {request : Http.Request}

/-- A signed request is a POST with an envelope that was sealed with the nonce. -/
theorem signedRequest_eq_ok (h : account.signedRequest nonce url payload = .ok request) :
    nonce ≠ "" ∧ ∃ envelope, account.seal? nonce payload = some envelope ∧ request =
      { method := .post, url := url, contentType := some envelopeContentType,
        body := some envelope.toJson.toOctets } := by
  rw [Account.signedRequest] at h
  split at h
  · cases h
  · rename_i hne
    split at h
    · cases h
    · rename_i envelope he
      cases h
      exact ⟨hne, envelope, he, rfl⟩

/-- What an account signs for a payload. -/
def Account.signingInput (account : Account) (nonce : String) (payload : Payload) : Octets :=
  Envelope.signingInput (Base64.url (ProtectedPart.mk account.webKey nonce).toJson.toOctets)
    (Base64.url payload.toJson.toOctets)

/-- With a nonce, a request fails only if the key cannot sign. -/
theorem signedRequest_of_sign? (url : String) (hnonce : nonce ≠ "") {signature : Octets}
    (h : account.key.sign? (account.signingInput nonce payload) = some signature) :
    ∃ request, account.signedRequest nonce url payload = .ok request := by
  have hseal : account.seal? nonce payload = some ⟨account.webKey,
      Base64.url (ProtectedPart.mk account.webKey nonce).toJson.toOctets,
      Base64.url payload.toJson.toOctets, Base64.url signature⟩ :=
    Option.bind_eq_some_iff.2 ⟨signature, h, rfl⟩
  rw [Account.signedRequest, if_neg hnonce, hseal]
  exact ⟨_, rfl⟩

theorem signedRequest_of_unsigned (url : String) (hnonce : nonce ≠ "")
    (h : account.key.sign? (account.signingInput nonce payload) = none) :
    account.signedRequest nonce url payload = .error (.signing CryptoError.signing.message) := by
  have hseal : account.seal? nonce payload = none := by
    rw [Account.signingInput] at h
    rw [Account.seal?, h]
    rfl
  rw [Account.signedRequest, if_neg hnonce, hseal]

theorem method_signedRequest (h : account.signedRequest nonce url payload = .ok request) :
    request.method = .post := by
  obtain ⟨_, envelope, _, rfl⟩ := signedRequest_eq_ok h
  rfl

theorem url_signedRequest (h : account.signedRequest nonce url payload = .ok request) :
    request.url = url := by
  obtain ⟨_, envelope, _, rfl⟩ := signedRequest_eq_ok h
  rfl

theorem signedNonce?_signedRequest (h : account.signedRequest nonce url payload = .ok request) :
    request.signedNonce? = some nonce := by
  obtain ⟨_, envelope, he, rfl⟩ := signedRequest_eq_ok h
  simp [Http.Request.signedNonce?, guard, Envelope.ofBody?_toOctets,
    Envelope.protectedPart?_seal? he]

end

end Acme
