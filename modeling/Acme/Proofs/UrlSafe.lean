import Acme.Proofs.Base64
import Acme.Proofs.Envelope
import Acme.Proofs.Octets
import Acme.Proofs.Rsa
import Acme.Rsa.Text
import Mathlib.Algebra.Order.Floor.Div
import Mathlib.Data.List.Basic

/-!
# What is written in URL-safe base 64

Octets have one text in URL-safe base 64, and it is the only one that is read as these octets. It
has no dot in it, so what is signed, two texts with a dot between them, comes apart in one way only;
and the numbers of a key are got back from its web key, so that two keys never have the same one
(`url_lossless`).
-/

namespace Acme

open Json

/-! ## Texts -/

/-- The text has the length and the digits that it should have, and it alone is read as the
octets. -/
structure Base64.Writes (octets : Octets) (text : String) : Prop where
  length : text.length = (4 * octets.length) ⌈/⌉ 3
  digits : ∀ c ∈ text.toList, c.isAlphanum = true ∨ c = '-' ∨ c = '_'
  decodes : Base64.decode? .urlSafe text.toList = some octets
  only : ∀ other : String, Base64.decode? .urlSafe other.toList = some octets → other = text

theorem url_of_decode? {octets : Octets} {text : String}
    (h : Base64.decode? .urlSafe text.toList = some octets) : Base64.url octets = text := by
  rw [Base64.url, Base64.encode_of_decode? h, String.ofList_toList]

theorem isAlphanum_of_mem_url {octets : Octets} {c : Char} (h : c ∈ (Base64.url octets).toList) :
    c.isAlphanum = true ∨ c = '-' ∨ c = '_' := by
  rw [Base64.url, String.toList_ofList] at h
  simpa [Base64.Alphabet.marks] using Base64.isAlphanum_of_mem_encode h

theorem writes_url (octets : Octets) : Base64.Writes octets (Base64.url octets) where
  length := by
    rw [Base64.url, String.length_ofList, Base64.length_encode, Nat.ceilDiv_eq_add_pred_div]
    rfl
  digits _ h := isAlphanum_of_mem_url h
  decodes := Base64.decode?_url octets
  only _ h := (url_of_decode? h).symm

/-! ## What is signed -/

theorem dot_not_mem_ofText_url (octets : Octets) :
    UInt8.ofNat '.'.toNat ∉ Octets.ofText (Base64.url octets) := by
  rw [← Octets.ofChars_toList, Octets.mem_ofChars_ascii (by decide)]
  intro h
  exact absurd (isAlphanum_of_mem_url h) (by decide)

/-- What is signed comes apart at its dot and nowhere else. -/
theorem signingInput_eq_iff (first second front back : Octets) :
    Envelope.signingInput (Base64.url first) (Base64.url second)
        = front ++ Octets.ofText "." ++ back
      ↔ front = Octets.ofText (Base64.url first) ∧ back = Octets.ofText (Base64.url second) := by
  have hdot : Octets.ofText "." = [UInt8.ofNat '.'.toNat] := by decide
  rw [Envelope.signingInput, Octets.ofText_append, Octets.ofText_append, hdot, List.append_assoc,
    List.append_assoc, List.singleton_append, List.singleton_append]
  constructor
  · intro h
    obtain ⟨hfront, _, hback⟩ := (List.append_cons_inj_of_notMem (dot_not_mem_ofText_url first)
      (dot_not_mem_ofText_url second)).1 h
    exact ⟨hfront.symm, hback.symm⟩
  · rintro ⟨rfl, rfl⟩
    rfl

/-- What is signed has one dot, which stands between the two texts in the envelope. -/
structure Account.ComesApart (account : Account) (nonce : String) (payload : Payload)
    (protectedText payloadText : String) : Prop where
  apart : ∀ front back : Octets, account.signingInput nonce payload
      = front ++ Octets.ofText "." ++ back
    ↔ front = Octets.ofText protectedText ∧ back = Octets.ofText payloadText
  readsPart : Base64.decode? .urlSafe protectedText.toList
    = some (ProtectedPart.mk account.webKey nonce).toJson.toOctets
  readsPayload : Base64.decode? .urlSafe payloadText.toList = some payload.toJson.toOctets
  sent : ∀ url request, account.signedRequest nonce url payload = .ok request →
    ∃ envelope, request.body.bind Envelope.ofBody? = some envelope
      ∧ envelope.protectedText = protectedText ∧ envelope.payloadText = payloadText

theorem comesApart (account : Account) (nonce : String) (payload : Payload) :
    account.ComesApart nonce payload
      (Base64.url (ProtectedPart.mk account.webKey nonce).toJson.toOctets)
      (Base64.url payload.toJson.toOctets) where
  apart := signingInput_eq_iff _ _
  readsPart := Base64.decode?_url _
  readsPayload := Base64.decode?_url _
  sent url request h := by
    obtain ⟨_, envelope, hseal, rfl⟩ := signedRequest_eq_ok h
    obtain ⟨signature, _, hmade⟩ := Option.bind_eq_some_iff.1 hseal
    cases hmade
    exact ⟨_, Envelope.ofBody?_toOctets _, rfl, rfl⟩

/-! ## Web keys -/

theorem WebKey.toOctets_injective : Function.Injective fun key : WebKey => key.toJson.toOctets := by
  intro first second h
  have hdocument := congrArg Document.parse? h
  rw [parse?_toOctets, parse?_toOctets] at hdocument
  have hkey := congrArg WebKey.ofDocument? (Option.some.inj hdocument)
  rw [WebKey.ofDocument?_document, WebKey.ofDocument?_document] at hkey
  exact Option.some.inj hkey

theorem url_injective : Function.Injective Base64.url := by
  intro first second h
  have hread := Base64.decode?_url first
  rw [h, Base64.decode?_url] at hread
  exact (Option.some.inj hread).symm

theorem ofNat_injective : Function.Injective Octets.ofNat := by
  intro first second h
  rw [← Octets.toNat_ofNat first, h, Octets.toNat_ofNat]

theorem webKey_eq_iff {first second : Rsa.PublicKey} :
    WebKey.ofPublicKey first = WebKey.ofPublicKey second ↔ first = second := by
  constructor
  · intro h
    have hexponent := ofNat_injective (url_injective (congrArg WebKey.exponent h))
    have hmodulus := ofNat_injective (url_injective (congrArg WebKey.modulus h))
    cases first
    cases second
    cases hexponent
    cases hmodulus
    rfl
  · rintro rfl
    rfl

/-- The octets in the web key of an account are the shortest forms of its numbers, and no other
numbers have this web key. -/
structure Account.Shows (account : Account) (modulus exponent : Octets) : Prop where
  readsModulus : Base64.decode? .urlSafe account.webKey.modulus.toList = some modulus
  readsExponent : Base64.decode? .urlSafe account.webKey.exponent.toList = some exponent
  shortest : modulus.IsShortest account.key.modulus ∧ exponent.IsShortest account.key.publicExponent
  read : ∀ pem, Account.ofPem? pem = some account → Rsa.publicOctets pem = .ok (modulus, exponent)
  apart : ∀ other : Account, other.webKey.toJson.toOctets = account.webKey.toJson.toOctets
    ↔ other.key.modulus = account.key.modulus
      ∧ other.key.publicExponent = account.key.publicExponent

theorem publicOctets_of_ofPem? {pem : String} {account : Account}
    (h : Account.ofPem? pem = some account) : Rsa.publicOctets pem
      = .ok (Octets.ofNat account.key.modulus, Octets.ofNat account.key.publicExponent) := by
  obtain ⟨key, hkey, rfl⟩ := Option.map_eq_some_iff.1 h
  rw [Rsa.publicOctets, Rsa.readKey, hkey]
  rfl

theorem account_shows (account : Account) : account.Shows (Octets.ofNat account.key.modulus)
    (Octets.ofNat account.key.publicExponent) where
  readsModulus := Base64.decode?_url _
  readsExponent := Base64.decode?_url _
  shortest := ⟨Octets.isShortest_ofNat account.key.modulus_pos,
    Octets.isShortest_ofNat account.key.publicExponent_pos⟩
  read _ h := publicOctets_of_ofPem? h
  apart other := by
    rw [WebKey.toOctets_injective.eq_iff, Account.webKey, Account.webKey, webKey_eq_iff,
      Rsa.PrivateKey.publicKey, Rsa.PrivateKey.publicKey, Rsa.PublicKey.mk.injEq]

theorem url_lossless :
    (∀ octets, Base64.Writes octets (Base64.url octets))
      ∧ (∀ (text : String) (octets : Octets), Base64.decode? .urlSafe text.toList = some octets →
        Base64.url octets = text)
      ∧ (∀ (account : Account) (nonce : String) (payload : Payload),
        ∃ protectedText payloadText, account.ComesApart nonce payload protectedText payloadText)
      ∧ ∀ account : Account, ∃ modulus exponent, account.Shows modulus exponent :=
  ⟨writes_url, fun _ _ h => url_of_decode? h,
    fun account nonce payload => ⟨_, _, comesApart account nonce payload⟩,
    fun account => ⟨_, _, account_shows account⟩⟩

end Acme
