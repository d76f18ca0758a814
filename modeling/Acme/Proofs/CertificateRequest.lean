import Acme.Proofs.CertificateRequest.Pkcs10
import Acme.Proofs.Rsa.Encoding

/-!
# What a certificate request says

What is read from a request that was created are the first domain, the public half of the key, one
alternative name for each domain, and a signature over the octets that stand in the request
(`create_says`).

Main definitions: `AltName.entry` and `Pkcs10.Says`.
-/

namespace Acme

/-- The entry that stands for a domain: the address that it denotes, or else the domain itself. -/
def AltName.entry (domain : String) : AltName :=
  match IpAddress.parse? domain with
  | some ip => .address ip.octets
  | none => .dns domain

/-- The request is about this key and these domains, and whoever has its public key can check that
the signature was made with the private one (RSASSA-PKCS1-v1_5 with SHA-256). -/
structure Pkcs10.Says (r : Pkcs10) (key : Rsa.PrivateKey) (domains : List String) : Prop where
  version : r.version = 0
  subject : ∃ primary, domains.head? = some primary
    ∧ r.subject = [[(Pkcs10.commonName, primary)]]
  publicKey : r.publicKey = ⟨key.modulus, key.publicExponent⟩
  names : ∃ value, r.extensions = [(Pkcs10.subjectAltName, false, value)]
    ∧ Pkcs10.altNames? value = some (domains.map AltName.entry)
  length : r.signature.length = Octets.lengthOfNat r.publicKey.modulus
  range : Octets.toNat r.signature < r.publicKey.modulus
  power : ∃ encoded, Rsa.IsEncoding (Sha256.digest r.signed) encoded
    ∧ encoded.length = r.signature.length
    ∧ Octets.toNat r.signature ^ r.publicKey.exponent % r.publicKey.modulus = Octets.toNat encoded

/-! ## Addresses and names -/

namespace IpAddress

theorem length_octets_of_parseV4? {cs : List Char} {ip : IpAddress} (h : parseV4? cs = some ip) :
    ip.octets.length = 4 := by
  rw [parseV4?] at h
  split at h
  · obtain ⟨a, _, h⟩ := Option.bind_eq_some_iff.1 h
    obtain ⟨b, _, h⟩ := Option.bind_eq_some_iff.1 h
    obtain ⟨c, _, h⟩ := Option.bind_eq_some_iff.1 h
    obtain ⟨d, _, h⟩ := Option.bind_eq_some_iff.1 h
    cases h
    rfl
  · cases h

theorem length_octets_v6 (groups : List UInt16) :
    (v6 groups).octets.length = 2 * groups.length := by
  induction groups with
  | nil => rfl
  | cons g groups ih =>
    rw [octets] at ih ⊢
    rw [List.flatMap_cons, List.length_append, ih]
    simp only [List.length_cons, List.length_nil]
    omega

theorem length_octets_of_parseV6? {cs : List Char} {ip : IpAddress} (h : parseV6? cs = some ip) :
    ip.octets.length = 16 := by
  rw [parseV6?] at h
  split at h
  · obtain ⟨groups, _, h⟩ := Option.bind_eq_some_iff.1 h
    by_cases hlength : groups.length = 8
    · simp only [hlength, guard, if_true] at h
      cases h
      rw [length_octets_v6, hlength]
    · simp only [hlength, guard, if_false] at h
      cases h
  · obtain ⟨left, _, h⟩ := Option.bind_eq_some_iff.1 h
    obtain ⟨right, _, h⟩ := Option.bind_eq_some_iff.1 h
    by_cases hlength : left.length + right.length ≤ 7
    · simp only [hlength, guard, if_true] at h
      cases h
      rw [length_octets_v6]
      simp only [List.length_append, List.length_replicate]
      omega
    · simp only [hlength, guard, if_false] at h
      cases h

theorem length_octets_of_parse? {text : String} {ip : IpAddress} (h : parse? text = some ip) :
    ip.octets.length = 4 ∨ ip.octets.length = 16 := by
  cases hv4 : parseV4? text.toList with
  | some v4 =>
    rw [parse?, hv4] at h
    cases h
    exact .inl (length_octets_of_parseV4? hv4)
  | none =>
    rw [parse?, hv4] at h
    exact .inr (length_octets_of_parseV6? h)

end IpAddress

namespace AltName

/-- What is written for an entry is read as this entry. -/
theorem ofDomain?_eq_some {domain : String} {name : AltName} (h : ofDomain? domain = some name) :
    name = entry domain ∧ Pkcs10.altName? name.element = some name := by
  rw [ofDomain?] at h
  rw [entry]
  cases hparse : IpAddress.parse? domain with
  | some ip =>
    rw [hparse] at h
    cases h
    have hlength := IpAddress.length_octets_of_parse? hparse
    exact ⟨rfl, (if_neg (by simp [element, Der.Element.of])).trans (if_pos ⟨rfl, hlength⟩)⟩
  | none =>
    rw [hparse] at h
    dsimp only at h
    split at h
    · next hascii =>
      cases h
      refine ⟨rfl, (if_pos rfl).trans ?_⟩
      simp only [element, Der.Element.of, Octets.text?_ofText, Option.filter, hascii, if_true,
        Option.map_some]
    · cases h

end AltName

namespace CertificateRequest

theorem altNamesOf_eq_ok {domains : List String} {names : List AltName}
    (h : altNamesOf domains = .ok names) :
    names = domains.map AltName.entry
      ∧ (names.map AltName.element).mapM Pkcs10.altName? = some names := by
  induction domains generalizing names with
  | nil =>
    cases h
    exact ⟨rfl, rfl⟩
  | cons domain rest ih =>
    rw [altNamesOf] at h
    cases hname : AltName.ofDomain? domain with
    | none =>
      rw [hname] at h
      cases h
    | some name =>
      rw [hname] at h
      obtain ⟨hentry, hread⟩ := AltName.ofDomain?_eq_some hname
      cases hrest : altNamesOf rest with
      | error e =>
        rw [hrest] at h
        cases h
      | ok more =>
        rw [hrest] at h
        cases h
        obtain ⟨hentries, hreads⟩ := ih hrest
        refine ⟨by rw [List.map_cons, hentry, hentries], ?_⟩
        rw [List.map_cons, List.mapM_cons, hread, hreads]
        rfl

end CertificateRequest

/-! ## Requests that are created -/

namespace CertificateRequest

variable {keyPem : String} {domains : List String} {request : CertificateRequest}

theorem create_eq_ok (h : create keyPem domains = .ok request) :
    ∃ key primary names signature, Rsa.PrivateKey.ofPem? keyPem = some key
      ∧ domains.head? = some primary ∧ altNamesOf domains = .ok names
      ∧ key.sign? (infoDer primary key.publicKey names) = some signature
      ∧ request = ⟨primary, key.publicKey, names, signature⟩ := by
  cases domains with
  | nil => cases h
  | cons primary rest =>
    rw [create] at h
    cases hkey : Rsa.PrivateKey.ofPem? keyPem with
    | none =>
      rw [hkey] at h
      cases h
    | some key =>
      rw [hkey] at h
      dsimp only at h
      split at h
      · cases h
      split at h
      · cases h
      cases hnames : altNamesOf (primary :: rest) with
      | error e =>
        rw [hnames] at h
        cases h
      | ok names =>
        rw [hnames] at h
        cases hsign : key.sign? (infoDer primary key.publicKey names) with
        | none =>
          simp only [hsign] at h
          cases h
        | some signature =>
          simp only [hsign] at h
          cases h
          exact ⟨key, primary, names, signature, rfl, rfl, rfl, hsign, rfl⟩

theorem create_of_sign? {key : Rsa.PrivateKey} {primary : String} {rest : List String}
    {names : List AltName} {signature : Octets} (hkey : Rsa.PrivateKey.ofPem? keyPem = some key)
    (hcoded : key.pkcs8Pem? ≠ none) (haccepts : AcceptsKey key)
    (hnames : altNamesOf (primary :: rest) = .ok names)
    (hsign : key.sign? (infoDer primary key.publicKey names) = some signature) :
    create keyPem (primary :: rest) = .ok ⟨primary, key.publicKey, names, signature⟩ := by
  rw [create, hkey]
  simp only [hcoded, haccepts, not_true, if_false, hnames, hsign]

/-- The list of alternative names is a part of the request. -/
theorem short_altNames (h : Der.Short request.der) :
    Der.Short (Pkcs10.altNamesElement request.altNames).octets := by
  rw [← Pkcs10.octets_requestElement] at h
  have hinfo := h.part List.mem_cons_self
  have hattributes : Der.Short (Pkcs10.attributesElement request.altNames).octets :=
    hinfo.part (by simp)
  have hattribute := hattributes.part List.mem_cons_self
  have hvalues := hattribute.part (List.mem_cons_of_mem _ List.mem_cons_self)
  have hextensions := hvalues.part List.mem_cons_self
  have hextension := hextensions.part List.mem_cons_self
  exact (hextension.part (List.mem_cons_of_mem _ List.mem_cons_self)).content

/-- Reading a request that was created gives what it was created from. The bound is that of DER
itself: a longer request has no form. -/
theorem create_says (h : create keyPem domains = .ok request)
    (hlength : request.der.length < 256 ^ 126) :
    ∃ key r, Rsa.PrivateKey.ofPem? keyPem = some key ∧ Pkcs10.ofOctets? request.der = some r
      ∧ r.signed = infoDer request.commonName request.publicKey request.altNames
      ∧ r.Says key domains := by
  obtain ⟨key, primary, names, signature, hkey, hprimary, hnames, hsign, hrequest⟩ := create_eq_ok h
  obtain ⟨hentries, hread⟩ := altNamesOf_eq_ok hnames
  obtain ⟨encoded, hencoded, hpower⟩ := Rsa.PrivateKey.toNat_of_sign? hsign
  obtain ⟨hdigest, hsize⟩ := Rsa.isEncoding_of_encodedDigest? hencoded
  have hsignature := Rsa.PrivateKey.length_of_sign? hsign
  have hshort := short_altNames hlength
  have hvalue := Pkcs10.altNames?_altNamesElement (hrequest ▸ hread) hshort
  rw [Pkcs10.octets_altNamesElement] at hvalue
  refine ⟨key, _, hkey, Pkcs10.ofOctets?_der hlength, rfl, ?_⟩
  subst hrequest
  constructor
  case version => rfl
  case subject => exact ⟨primary, hprimary, rfl⟩
  case publicKey => rfl
  case names => exact ⟨_, rfl, hentries ▸ hvalue⟩
  case length => exact hsignature
  case range => exact Rsa.PrivateKey.toNat_lt_of_sign? hsign
  case power => exact ⟨encoded, hdigest, hsize.trans hsignature.symm, hpower⟩

/-- A request over a name and an address. -/
theorem create_says_prothKey :
    ∃ request, create Rsa.PrivateKey.prothPem ["a.org", "127.0.0.1"] = .ok request
      ∧ request.der.length < 256 ^ 126
      ∧ ∃ key r, Rsa.PrivateKey.ofPem? Rsa.PrivateKey.prothPem = some key
        ∧ Pkcs10.ofOctets? request.der = some r
        ∧ r.signed = infoDer request.commonName request.publicKey request.altNames
        ∧ r.Says key ["a.org", "127.0.0.1"] := by
  let key := Rsa.PrivateKey.prothKey
  let names : List AltName := [.dns "a.org", .address [127, 0, 0, 1]]
  have hnames : altNamesOf ["a.org", "127.0.0.1"] = .ok names := by decide +kernel
  have hcoded : key.pkcs8Pem? ≠ none := by
    rw [Rsa.PrivateKey.pkcs8Pem?_prothKey]
    exact Option.some_ne_none _
  have haccepts : AcceptsKey key := by decide +kernel
  have hshort : (key.sign? (infoDer "a.org" key.publicKey names)).any (fun signature =>
      decide ((mk "a.org" key.publicKey names signature).der.length < 256 ^ 126)) = true := by
    decide +kernel
  cases hsign : key.sign? (infoDer "a.org" key.publicKey names) with
  | none =>
    rw [hsign] at hshort
    cases hshort
  | some signature =>
    rw [hsign, Option.any_some] at hshort
    have hcreate := create_of_sign? Rsa.PrivateKey.ofPem?_prothPem hcoded haccepts hnames hsign
    have hder := of_decide_eq_true hshort
    exact ⟨_, hcreate, hder, create_says hcreate hder⟩

end CertificateRequest

end Acme
