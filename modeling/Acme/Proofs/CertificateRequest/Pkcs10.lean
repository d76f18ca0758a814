import Acme.CertificateRequest
import Acme.Proofs.Der

/-!
# Reading certificate requests

A reader of PKCS#10 requests (RFC 2986) that knows nothing of how they are written: strict DER, one
attribute, and nothing left over anywhere. It reads every part of a request as it was written, and
so the request (`ofOctets?_der`).

Main definitions: `Pkcs10` with `Pkcs10.ofOctets?` and `Pkcs10.altNames?`.
-/

namespace Acme

/-! ## The reader -/

/-- What an octet string means to whoever gets it as a request; `signed` are the octets of its first
part as they stand there. -/
structure Pkcs10 where
  signed : Octets
  version : Nat
  subject : List (List (List Nat × String))
  publicKey : Rsa.PublicKey
  /-- Identifier, whether it is critical, and value. -/
  extensions : List (List Nat × Bool × Octets)
  signature : Octets
  deriving DecidableEq, Repr

namespace Pkcs10

open Der

def rsaEncryption : List Nat := [1, 2, 840, 113549, 1, 1, 1]

def sha256WithRsaEncryption : List Nat := [1, 2, 840, 113549, 1, 1, 11]

def extensionRequest : List Nat := [1, 2, 840, 113549, 1, 9, 14]

def commonName : List Nat := [2, 5, 4, 3]

def subjectAltName : List Nat := [2, 5, 29, 17]

def identifier? (e : Element) : Option (List Nat) :=
  (e.content? objectIdentifierTag).bind objectIdentifier?

def number? (e : Element) : Option Nat :=
  (e.content? integerTag).bind naturalOfContent?

def bitString? (e : Element) : Option Octets :=
  (e.content? bitStringTag).bind bits?

/-- The one element that the octets consist of. -/
def single? (bytes : Octets) : Option Element :=
  match elements? bytes with
  | some [e] => some e
  | _ => none

/-- The elements of a SET OF, which stand in the order of their octets. -/
def members? (e : Element) : Option (List Element) := do
  let parts ← e.parts? setTag
  guard (parts.Pairwise fun a b => a.octets ≤ b.octets)
  return parts

/-- An algorithm whose parameters are NULL. -/
def algorithm? (e : Element) : Option (List Nat) := do
  let [id, parameters] ← e.parts? sequenceTag | none
  guard (parameters.content? nullTag = some [])
  identifier? id

def nameAttribute? (e : Element) : Option (List Nat × String) := do
  let [id, value] ← e.parts? sequenceTag | none
  return (← identifier? id, ← (value.content? utf8StringTag).bind Octets.text?)

def name? (e : Element) : Option (List (List (List Nat × String))) := do
  (← e.parts? sequenceTag).mapM fun set => do (← members? set).mapM nameAttribute?

def publicKey? (e : Element) : Option Rsa.PublicKey := do
  let [algorithm, key] ← e.parts? sequenceTag | none
  guard (algorithm? algorithm = some rsaEncryption)
  let [modulus, exponent] ← (← single? (← bitString? key)).parts? sequenceTag | none
  return ⟨← number? modulus, ← number? exponent⟩

/-- An extension; that it is not critical is never written. -/
def extension? (e : Element) : Option (List Nat × Bool × Octets) := do
  match ← e.parts? sequenceTag with
  | [id, value] => return (← identifier? id, false, ← value.content? octetStringTag)
  | [id, critical, value] =>
    guard (critical.content? 0x01 = some [0xFF])
    return (← identifier? id, true, ← value.content? octetStringTag)
  | _ => none

/-- The extensions asked for, which are the only attribute. -/
def extensions? (e : Element) : Option (List (List Nat × Bool × Octets)) := do
  let [only] ← e.parts? 0xA0 | none
  let [id, values] ← only.parts? sequenceTag | none
  guard (identifier? id = some extensionRequest)
  let [value] ← members? values | none
  (← value.parts? sequenceTag).mapM extension?

def ofOctets? (bytes : Octets) : Option Pkcs10 := do
  let [info, algorithm, signature] ← (← single? bytes).parts? sequenceTag | none
  guard (algorithm? algorithm = some sha256WithRsaEncryption)
  let [version, subject, key, attributes] ← info.parts? sequenceTag | none
  return ⟨info.octets, ← number? version, ← name? subject, ← publicKey? key,
    ← extensions? attributes, ← bitString? signature⟩

/-- A dNSName of ASCII characters, or an iPAddress of either length. -/
def altName? (e : Element) : Option AltName :=
  if e.tag = 0x82 then
    ((Octets.text? e.content).filter fun name => Text.isAscii name.toList).map .dns
  else if e.tag = 0x87 ∧ (e.content.length = 4 ∨ e.content.length = 16) then
    some (.address e.content)
  else none

/-- The entries in the value of a subject alternative name. -/
def altNames? (value : Octets) : Option (List AltName) := do
  (← (← single? value).parts? sequenceTag).mapM altName?

end Pkcs10

/-! ## The parts of a request -/

namespace AltName

/-- The element that is written for an entry. -/
def element : AltName → Der.Element
  | .dns name => .of 0x82 (Octets.ofText name)
  | .address octets => .of 0x87 octets

theorem octets_element (name : AltName) : name.element.octets = name.der := by
  cases name <;> rfl

theorem written_element (name : AltName) : name.element.Written := by
  cases name <;> rfl

end AltName

namespace Pkcs10

open Der CertificateRequest

section
variable {e : Element}

theorem number?_natural (n : Nat) : number? (.of integerTag (naturalContent n)) = some n :=
  naturalOfContent?_naturalContent n

theorem single?_octets (he : e.Written) (h : Short e.octets) : single? e.octets = some e := by
  rw [single?, elements?_octets he h]

theorem members?_one (he : e.Written) (h : Short (Element.group setTag [e]).octets) :
    members? (.group setTag [e]) = some [e] := by
  rw [members?, parts?_group (by simpa using he) h]
  simp [guard]

end

/-- The element of an algorithm whose parameters are NULL. -/
def algorithmElement (id : Octets) : Element :=
  .group sequenceTag [.of objectIdentifierTag id, .of nullTag []]

def subjectElement (primary : String) : Element :=
  .group sequenceTag [.group setTag [.group sequenceTag
    [.of objectIdentifierTag commonNameId, .of utf8StringTag (Octets.ofText primary)]]]

def keyElement (key : Rsa.PublicKey) : Element :=
  .group sequenceTag
    [.of integerTag (naturalContent key.modulus), .of integerTag (naturalContent key.exponent)]

def publicKeyElement (key : Rsa.PublicKey) : Element :=
  .group sequenceTag
    [algorithmElement Rsa.PrivateKey.rsaEncryption, .of bitStringTag (0 :: (keyElement key).octets)]

def altNamesElement (names : List AltName) : Element :=
  .group sequenceTag (names.map AltName.element)

def extensionElement (names : List AltName) : Element :=
  .group sequenceTag
    [.of objectIdentifierTag subjectAltNameId, .of octetStringTag (altNamesElement names).octets]

def attributesElement (names : List AltName) : Element :=
  .group 0xA0 [.group sequenceTag [.of objectIdentifierTag extensionRequestId,
    .group setTag [.group sequenceTag [extensionElement names]]]]

def infoElement (primary : String) (key : Rsa.PublicKey) (names : List AltName) : Element :=
  .group sequenceTag [.of integerTag (naturalContent 0), subjectElement primary,
    publicKeyElement key, attributesElement names]

def requestElement (request : CertificateRequest) : Element :=
  .group sequenceTag
    [infoElement request.commonName request.publicKey request.altNames,
      algorithmElement sha256WithRsaId, .of bitStringTag (0 :: request.signature)]

theorem octets_altNamesElement (names : List AltName) :
    (altNamesElement names).octets = Der.sequence (names.map AltName.der) := by
  have hmap : (names.map AltName.element).map Element.octets = names.map AltName.der := by
    rw [List.map_map]
    exact List.map_congr_left fun name _ => name.octets_element
  rw [altNamesElement, Element.group, hmap]
  rfl

theorem octets_subjectElement (primary : String) :
    (subjectElement primary).octets = subjectDer primary := by
  simp [subjectElement, subjectDer, identifier, Der.sequence, Der.set]

theorem octets_publicKeyElement (key : Rsa.PublicKey) :
    (publicKeyElement key).octets = publicKeyDer key := by
  simp [publicKeyElement, publicKeyDer, algorithmElement, keyElement, Der.sequence, bitString, null,
    natural_eq, Rsa.PrivateKey.algorithmContent]

theorem octets_attributesElement (names : List AltName) :
    (attributesElement names).octets = attributesDer names := by
  simp only [attributesElement, extensionElement, attributesDer, ← octets_altNamesElement]
  simp [identifier, Der.sequence, Der.set]

theorem octets_infoElement (primary : String) (key : Rsa.PublicKey) (names : List AltName) :
    (infoElement primary key names).octets = infoDer primary key names := by
  rw [infoDer, ← octets_subjectElement, ← octets_publicKeyElement, ← octets_attributesElement,
    natural_eq]
  simp only [infoElement, Der.sequence, Element.octets_group, Element.octets_of, List.map_cons,
    List.map_nil]

theorem octets_requestElement (request : CertificateRequest) :
    (requestElement request).octets = request.der := by
  rw [der, ← octets_infoElement]
  simp only [requestElement, algorithmElement, Der.sequence, bitString, identifier, null,
    Element.octets_group, Element.octets_of, List.map_cons, List.map_nil]

/-! ## Reading the parts -/

variable {key : Rsa.PublicKey} {names : List AltName} {primary : String}

theorem algorithm?_element {id : Octets} (h : Short (algorithmElement id).octets) :
    algorithm? (algorithmElement id) = objectIdentifier? id := by
  have hparts := parts?_group (by simp) h
  rw [algorithm?, algorithmElement, hparts]
  rfl

theorem name?_subjectElement (h : Short (subjectElement primary).octets) :
    name? (subjectElement primary) = some [[(commonName, primary)]] := by
  have hset := h.part List.mem_cons_self
  have hattribute := parts?_group (by simp) (hset.part List.mem_cons_self)
  have hread : nameAttribute? (.group sequenceTag
      [.of objectIdentifierTag commonNameId, .of utf8StringTag (Octets.ofText primary)])
        = some (commonName, primary) := by
    rw [nameAttribute?, hattribute]
    simp only [Option.bind_eq_bind, Option.bind_some, Element.content?_of, Octets.text?_ofText]
    rfl
  rw [name?, subjectElement, parts?_group (by simp) h]
  simp only [Option.bind_eq_bind, Option.bind_some, List.mapM_cons, List.mapM_nil]
  rw [members?_one (Element.written_group _ _) hset]
  simp only [Option.bind_some, List.mapM_cons, List.mapM_nil, hread]
  rfl

theorem publicKey?_publicKeyElement (h : Short (publicKeyElement key).octets) :
    publicKey? (publicKeyElement key) = some key := by
  have halgorithm := algorithm?_element (h.part List.mem_cons_self)
  have hid : objectIdentifier? Rsa.PrivateKey.rsaEncryption = some rsaEncryption := by decide
  have hbits : Short (keyElement key).octets :=
    Nat.lt_of_succ_lt (h.part (List.mem_cons_of_mem _ List.mem_cons_self)).content
  have hnumbers : (keyElement key).parts? sequenceTag = _ := parts?_group (by simp) hbits
  have hsingle := single?_octets (Element.written_group _ _) hbits
  have hstring : bitString? (.of bitStringTag (0 :: (keyElement key).octets))
      = some (keyElement key).octets := rfl
  rw [publicKey?, publicKeyElement, parts?_group (by simp [algorithmElement]) h]
  simp only [Option.bind_eq_bind, Option.bind_some, halgorithm, hid, guard, if_true, hstring]
  rw [keyElement, hsingle, Option.bind_some, ← keyElement, hnumbers]
  simp only [Option.bind_some, number?_natural]
  rfl

theorem extension?_extensionElement (h : Short (extensionElement names).octets) :
    extension? (extensionElement names)
      = some (subjectAltName, false, (altNamesElement names).octets) := by
  rw [extension?, extensionElement, parts?_group (by simp) h]
  rfl

theorem extensions?_attributesElement (h : Short (attributesElement names).octets) :
    extensions? (attributesElement names)
      = some [(subjectAltName, false, (altNamesElement names).octets)] := by
  have hattribute := h.part List.mem_cons_self
  have hset := hattribute.part (List.mem_cons_of_mem _ List.mem_cons_self)
  have hlist := hset.part List.mem_cons_self
  have hextension := extension?_extensionElement (hlist.part List.mem_cons_self)
  have hid : identifier? (.of objectIdentifierTag extensionRequestId) = some extensionRequest := by
    decide
  rw [extensions?, attributesElement, parts?_group (by simp) h]
  simp only [Option.bind_eq_bind, Option.bind_some]
  rw [parts?_group (by simp) hattribute]
  simp only [Option.bind_some, hid, guard, if_true]
  rw [members?_one (Element.written_group _ _) hset, Option.bind_some]
  simp only []
  rw [parts?_group (by simp [extensionElement]) hlist, Option.bind_some, List.mapM_cons, hextension]
  rfl

/-- The alternative names are read back, in their order. -/
theorem altNames?_altNamesElement (hread : (names.map AltName.element).mapM altName? = some names)
    (h : Short (altNamesElement names).octets) :
    altNames? (altNamesElement names).octets = some names := by
  have hwritten : ∀ e ∈ names.map AltName.element, e.Written := by
    intro e he
    obtain ⟨name, _, rfl⟩ := List.mem_map.1 he
    exact name.written_element
  have hsingle := single?_octets (Element.written_group _ _) h
  rw [altNames?, altNamesElement, hsingle, Option.bind_eq_bind, Option.bind_some,
    parts?_group hwritten h]
  exact hread

theorem ofOctets?_der {request : CertificateRequest} (h : Short request.der) :
    ofOctets? request.der = some
      ⟨infoDer request.commonName request.publicKey request.altNames, 0,
        [[(commonName, request.commonName)]], request.publicKey,
        [(subjectAltName, false, Der.sequence (request.altNames.map AltName.der))],
        request.signature⟩ := by
  rw [← octets_requestElement] at h ⊢
  have hinfo := h.part List.mem_cons_self
  have halgorithm := algorithm?_element (h.part (List.mem_cons_of_mem _ List.mem_cons_self))
  have hid : objectIdentifier? sha256WithRsaId = some sha256WithRsaEncryption := by decide
  have hsubject : name? (subjectElement request.commonName) = _ :=
    name?_subjectElement (hinfo.part (by simp))
  have hkey : publicKey? (publicKeyElement request.publicKey) = _ :=
    publicKey?_publicKeyElement (hinfo.part (by simp))
  have hextensions : extensions? (attributesElement request.altNames) = _ :=
    extensions?_attributesElement (hinfo.part (by simp))
  have hsignature : bitString? (.of bitStringTag (0 :: request.signature))
      = some request.signature := rfl
  have hsingle := single?_octets (Element.written_group _ _) h
  rw [ofOctets?, requestElement, hsingle, Option.bind_eq_bind, Option.bind_some,
    parts?_group (by simp [infoElement, algorithmElement]) h]
  simp only [Option.bind_some, Option.bind_eq_bind, halgorithm, hid, guard, if_true]
  rw [infoElement, parts?_group
    (by simp [subjectElement, publicKeyElement, attributesElement]) hinfo]
  simp only [Option.bind_some, number?_natural, hsubject, hkey, hextensions, hsignature]
  rw [← infoElement, octets_infoElement, octets_altNamesElement]
  rfl

end Pkcs10

end Acme
