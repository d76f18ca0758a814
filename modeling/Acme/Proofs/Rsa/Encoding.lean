import Acme.Proofs.Der
import Acme.Proofs.Pem
import Acme.Proofs.Rsa.Generation

/-!
# Keys are read back

A key that is written as PKCS#8 PEM is read as the same key (`ofPem?_pkcs8Pem?`). Which keys can be
written depends on their coefficient, and on the length of the form; this is no concern if none of
the numbers exceeds the modulus, and the modulus has no more than 8192 bits (`exists_pkcs8Pem?`).
-/

namespace Acme.Rsa.PrivateKey

open Der

/-- The private exponent is reduced, and the modulus has at most 1024 octets. -/
structure Moderate (k : PrivateKey) : Prop where
  privateExponent : k.privateExponent < k.modulus
  size : k.size ≤ 1024

variable {k : PrivateKey}

theorem IsGenerated.moderate {bits : Nat} (hk : k.IsGenerated bits) (hpos : 0 < bits)
    (hbits : bits ≤ 8192) : k.Moderate := by
  have hsize := hk.size_eq hpos
  exact ⟨hk.privateExponent, by omega⟩

/-! ## The numbers of a key -/

/-- The numbers of the PKCS#1 form. -/
def numbers (k : PrivateKey) (coefficient : Nat) : List Nat :=
  [0, k.modulus, k.publicExponent, k.privateExponent, k.prime1, k.prime2,
    k.privateExponent % (k.prime1 - 1), k.privateExponent % (k.prime2 - 1), coefficient]

theorem prime1_le_modulus (k : PrivateKey) : k.prime1 ≤ k.modulus := by
  obtain ⟨hmodulus, _, hprime2, _⟩ := k.consistent
  rw [hmodulus]
  exact Nat.le_mul_of_pos_right _ (by omega)

theorem prime2_le_modulus (k : PrivateKey) : k.prime2 ≤ k.modulus := by
  obtain ⟨hmodulus, hprime1, _⟩ := k.consistent
  rw [hmodulus]
  exact Nat.le_mul_of_pos_left _ (by omega)

theorem le_modulus_of_mem_numbers (h : k.Moderate) {coefficient n : Nat}
    (hc : k.coefficient? = some coefficient) (hn : n ∈ k.numbers coefficient) : n ≤ k.modulus := by
  obtain ⟨_, hprime1, _, _, hexponent, _⟩ := k.consistent
  have hd := h.privateExponent
  have hp := k.prime1_le_modulus
  have hq := k.prime2_le_modulus
  have hrest1 := Nat.mod_le k.privateExponent (k.prime1 - 1)
  have hrest2 := Nat.mod_le k.privateExponent (k.prime2 - 1)
  have hcoefficient := (inverseMod?_spec (by omega) hc).1
  simp only [numbers, List.mem_cons, List.not_mem_nil, or_false] at hn
  rcases hn with rfl | rfl | rfl | rfl | rfl | rfl | rfl | rfl | rfl <;> omega

theorem lengthOfNat_of_mem_numbers (h : k.Moderate) {coefficient : Nat}
    (hc : k.coefficient? = some coefficient) :
    ∀ n ∈ k.numbers coefficient, Octets.lengthOfNat n ≤ 1024 := by
  intro n hn
  have hle := le_modulus_of_mem_numbers h hc hn
  have hlt := Nat.lt_of_le_of_lt hle (Octets.lt_pow_lengthOfNat k.modulus)
  exact Nat.le_trans (Octets.lengthOfNat_le (Octets.lengthOfNat_pos _) hlt) h.size

/-! ## PKCS#1 -/

/-- The PKCS#1 form with any values for the last three numbers, which follow from the others. -/
def pkcs1Form (k : PrivateKey) (exponent1 exponent2 coefficient : Nat) : Octets :=
  element sequenceTag <| ([0, k.modulus, k.publicExponent, k.privateExponent, k.prime1, k.prime2,
    exponent1, exponent2, coefficient].map natural).flatten

theorem pkcs1?_eq_some_iff {inner : Octets} :
    k.pkcs1? = some inner ↔ ∃ coefficient, k.coefficient? = some coefficient
      ∧ inner = k.pkcs1Form (k.privateExponent % (k.prime1 - 1))
        (k.privateExponent % (k.prime2 - 1)) coefficient := by
  rw [pkcs1?, Option.bind_eq_bind, Option.bind_eq_some_iff]
  refine exists_congr fun coefficient => and_congr_right fun _ => ?_
  exact ⟨fun h => (Option.some.inj h).symm, fun h => congrArg some h.symm⟩

theorem ofPkcs1?_pkcs1Form {x y z : Nat} (h : (k.pkcs1Form x y z).length ≤ maxLength) :
    ofPkcs1? (k.pkcs1Form x y z) = some k := by
  have hcontent : _ < maxContent :=
    Nat.lt_of_lt_of_le (length_lt_element sequenceTag _) (Nat.le_trans h (by decide))
  have hread := readNaturals?_natural hcontent []
  rw [List.append_nil] at hread
  have hnumbers : ofNumbers? k.toKeyNumbers = some k := dif_pos k.consistent
  rw [ofPkcs1?, pkcs1Form, whole?_element _ h, Option.bind_eq_bind, Option.bind_some]
  rw [show readNaturals? 9 _ = _ from hread]
  exact hnumbers

/-! ## PKCS#8 -/

theorem wrapped_eq (inner : Octets) :
    wrapped inner = element sequenceTag (natural 0 ++ (element sequenceTag algorithmContent
      ++ element octetStringTag inner)) := by
  rw [wrapped, Der.sequence, List.flatten_cons, List.flatten_cons, List.flatten_cons,
    List.flatten_nil, List.append_nil]

theorem length_version : (natural 0).length = 3 := by decide

theorem length_algorithm : (element sequenceTag algorithmContent).length = 15 := by decide

/-- The PKCS#8 form is longer than the PKCS#1 form in it. -/
theorem le_length_wrapped (inner : Octets) : inner.length + 20 ≤ (wrapped inner).length := by
  have hinner := length_lt_element octetStringTag inner
  have hcontent := length_lt_element sequenceTag (natural 0 ++ (element sequenceTag algorithmContent
    ++ element octetStringTag inner))
  rw [List.length_append, List.length_append, length_version, length_algorithm] at hcontent
  rw [wrapped_eq]
  omega

theorem length_le_wrapped (inner : Octets) : inner.length ≤ (wrapped inner).length :=
  Nat.le_trans (Nat.le_add_right _ 20) (le_length_wrapped inner)

theorem ofPkcs8?_wrapped {inner : Octets} (h : (wrapped inner).length ≤ maxLength) :
    ofPkcs8? (wrapped inner) = ofPkcs1? inner := by
  have hinner : inner.length < maxContent := by
    have hle := le_length_wrapped inner
    simp only [maxLength, maxContent] at h ⊢
    omega
  have hread := readTagged?_element octetStringTag hinner []
  rw [List.append_nil] at hread
  have htail : tailIsValid 0 [] = true := by decide
  rw [wrapped_eq] at h ⊢
  rw [ofPkcs8?, whole?_element _ h]
  simp only [Option.bind_eq_bind, Option.bind_some]
  rw [readNatural?_natural (by decide), Option.bind_some]
  simp only [guard, Nat.zero_le, if_true]
  rw [readTagged?_element _ (by decide)]
  simp [hread, htail]

theorem pkcs8?_eq_some_iff {bytes : Octets} :
    k.pkcs8? = some bytes ↔ ∃ inner, k.pkcs1? = some inner ∧ bytes = wrapped inner
      ∧ (wrapped inner).length ≤ maxLength := by
  rw [pkcs8?, Option.bind_eq_bind, Option.bind_eq_some_iff]
  refine exists_congr fun inner => and_congr_right fun _ => ?_
  by_cases hlength : (wrapped inner).length ≤ maxLength
  · simp [guard, hlength, eq_comm]
  · simp [guard, hlength]

theorem ofPkcs8?_pkcs8? {bytes : Octets} (hk : k.pkcs8? = some bytes) :
    ofPkcs8? bytes = some k ∧ bytes ≠ [] := by
  obtain ⟨inner, hinner, rfl, hlength⟩ := pkcs8?_eq_some_iff.1 hk
  obtain ⟨coefficient, _, rfl⟩ := pkcs1?_eq_some_iff.1 hinner
  refine ⟨?_, List.cons_ne_nil _ _⟩
  rw [ofPkcs8?_wrapped hlength]
  exact ofPkcs1?_pkcs1Form (Nat.le_trans (length_le_wrapped _) hlength)

/-! ## PEM -/

/-- A key that is written as PEM is read as the same key. -/
theorem ofPem?_pkcs8Pem? {pem : String} (hk : k.pkcs8Pem? = some pem) : ofPem? pem = some k := by
  obtain ⟨bytes, hbytes, rfl⟩ := Option.map_eq_some_iff.1 hk
  obtain ⟨hread, hne⟩ := ofPkcs8?_pkcs8? hbytes
  rw [ofPem?, Pem.decode?_encode pkcs8Label hne, Option.bind_some, hread]
  rfl

/-- A key can be written if it has a coefficient, and its form is not too long. -/
theorem pkcs8Pem?_eq_some_iff {pem : String} :
    k.pkcs8Pem? = some pem ↔ ∃ coefficient, k.coefficient? = some coefficient
      ∧ (wrapped (k.pkcs1Form (k.privateExponent % (k.prime1 - 1))
        (k.privateExponent % (k.prime2 - 1)) coefficient)).length ≤ maxLength
      ∧ pem = Pem.encode pkcs8Label (wrapped (k.pkcs1Form (k.privateExponent % (k.prime1 - 1))
        (k.privateExponent % (k.prime2 - 1)) coefficient)) := by
  rw [pkcs8Pem?, Option.map_eq_some_iff]
  constructor
  · rintro ⟨bytes, hbytes, rfl⟩
    obtain ⟨inner, hinner, rfl, hlength⟩ := pkcs8?_eq_some_iff.1 hbytes
    obtain ⟨coefficient, hc, rfl⟩ := pkcs1?_eq_some_iff.1 hinner
    exact ⟨coefficient, hc, hlength, rfl⟩
  · rintro ⟨coefficient, hc, hlength, rfl⟩
    exact ⟨_, pkcs8?_eq_some_iff.2 ⟨_, pkcs1?_eq_some_iff.2 ⟨coefficient, hc, rfl⟩, rfl, hlength⟩,
      rfl⟩

/-- What is written as PEM has a coefficient. -/
theorem coefficient?_of_pkcs8Pem? {pem : String} (hk : k.pkcs8Pem? = some pem) :
    ∃ coefficient, k.coefficient? = some coefficient := by
  obtain ⟨coefficient, hc, _⟩ := pkcs8Pem?_eq_some_iff.1 hk
  exact ⟨coefficient, hc⟩

/-! ## Moderate keys -/

theorem length_wrapped_le {inner : Octets} (h : inner.length ≤ 10000) :
    (wrapped inner).length ≤ inner.length + 30 := by
  have hinner := length_element_le octetStringTag (Nat.lt_of_le_of_lt h (by decide))
  have hcontent : (natural 0 ++ (element sequenceTag algorithmContent
      ++ element octetStringTag inner)).length ≤ inner.length + 24 := by
    rw [List.length_append, List.length_append, length_version, length_algorithm]
    omega
  have houter := length_element_le sequenceTag (Nat.lt_of_le_of_lt hcontent
    (Nat.lt_of_le_of_lt (Nat.add_le_add_right h 24) (by decide)))
  rw [wrapped_eq]
  omega

theorem length_wrapped_pkcs1Form (h : k.Moderate) {coefficient : Nat}
    (hc : k.coefficient? = some coefficient) :
    (wrapped (k.pkcs1Form (k.privateExponent % (k.prime1 - 1))
      (k.privateExponent % (k.prime2 - 1)) coefficient)).length ≤ maxLength := by
  have hnumbers : ((k.numbers coefficient).map natural).flatten.length ≤ 9 * 1031 :=
    length_naturals_le (by decide) (lengthOfNat_of_mem_numbers h hc)
  have hform := length_element_le sequenceTag (Nat.lt_of_le_of_lt hnumbers (by decide))
  have hbound : (k.pkcs1Form (k.privateExponent % (k.prime1 - 1))
      (k.privateExponent % (k.prime2 - 1)) coefficient).length ≤ 10000 :=
    Nat.le_trans hform (Nat.le_trans (Nat.add_le_add_right hnumbers 6) (by decide))
  exact Nat.le_trans (length_wrapped_le hbound) (Nat.le_trans (Nat.add_le_add_right hbound 30)
    (by decide))

theorem exists_pkcs8Pem? (h : k.Moderate) {coefficient : Nat}
    (hc : k.coefficient? = some coefficient) : ∃ pem, k.pkcs8Pem? = some pem :=
  ⟨_, pkcs8Pem?_eq_some_iff.2 ⟨coefficient, hc, length_wrapped_pkcs1Form h hc, rfl⟩⟩

/-- The key of two Proth numbers as PEM. -/
def prothPem : String :=
  prothKey.pkcs8Pem?.getD ""

theorem pkcs8Pem?_prothKey : prothKey.pkcs8Pem? = some prothPem := by
  have hcoded : prothKey.coefficient?.isSome = true := by decide +kernel
  obtain ⟨coefficient, hc⟩ := Option.isSome_iff_exists.1 hcoded
  obtain ⟨pem, hpem⟩ :=
    exists_pkcs8Pem? (isGenerated_prothKey.moderate (by decide) (by decide)) hc
  rw [prothPem, hpem, Option.getD_some]

theorem ofPem?_prothPem : ofPem? prothPem = some prothKey :=
  ofPem?_pkcs8Pem? pkcs8Pem?_prothKey

end Acme.Rsa.PrivateKey
