import Acme.Proofs.Rsa.Encoding
import Acme.Rsa.Text

/-!
# Texts that hold a key

A text is valid exactly if a key can be read from it, since every key that is read has passed its
check (`isValidKey_iff`). A key can be written as a text if its factors have no common divisor and
its form is not too long (`exists_writeKey_iff`), and is then read back (`readKey_of_writeKey`).

Texts of one key differ in their form and in their line ends. The PKCS#1 form, and so the PKCS#8 form
around it, ends with three numbers that follow from the others; whatever their values are, the same
key is read (`Layout.readKey_text`).
-/

namespace Acme.Rsa

open PrivateKey

variable {pem : String} {k : PrivateKey}

/-! ## Reading -/

theorem orError_eq_ok_iff {α : Type} {e : CryptoError} {x? : Option α} {x : α} :
    orError e x? = .ok x ↔ x? = some x := by
  cases x? with
  | none => exact ⟨nofun, nofun⟩
  | some y => exact ⟨fun h => congrArg some (Except.ok.inj h),
      fun h => congrArg Except.ok (Option.some.inj h)⟩

theorem readKey_eq_ok_iff : readKey pem = .ok k ↔ ofPem? pem = some k :=
  orError_eq_ok_iff

theorem isValidKey_iff : isValidKey pem = true ↔ ∃ k, readKey pem = .ok k := by
  rw [isValidKey]
  cases readKey pem with
  | error e => exact ⟨nofun, nofun⟩
  | ok key => exact ⟨fun _ => ⟨key, rfl⟩, fun _ => decide_eq_true key.consistent⟩

theorem exists_publicOctets_iff :
    (∃ octets, publicOctets pem = .ok octets) ↔ ∃ k, readKey pem = .ok k := by
  rw [publicOctets]
  cases readKey pem with
  | error e => exact ⟨nofun, nofun⟩
  | ok key => exact ⟨fun _ => ⟨key, rfl⟩, fun _ => ⟨_, rfl⟩⟩

theorem signWith_of_readKey (h : readKey pem = .ok k) {message signature : Octets} :
    signWith pem message = .ok signature ↔ k.sign? message = some signature := by
  rw [signWith, h]
  exact orError_eq_ok_iff

/-! ## Writing -/

theorem writeKey_eq_ok_iff : writeKey k = .ok pem ↔ k.pkcs8Pem? = some pem :=
  orError_eq_ok_iff

/-- A key can be written: its factors have no common divisor, and its form is not too long. -/
structure PrivateKey.IsWritable (k : PrivateKey) : Prop where
  coprime : Nat.Coprime k.prime1 k.prime2
  length : ∀ inner, k.pkcs1? = some inner → (wrapped inner).length ≤ Der.maxLength

theorem exists_writeKey_iff : (∃ pem, writeKey k = .ok pem) ↔ k.IsWritable := by
  constructor
  · rintro ⟨pem, hpem⟩
    obtain ⟨bytes, hbytes, _⟩ := Option.map_eq_some_iff.1 (writeKey_eq_ok_iff.1 hpem)
    obtain ⟨inner, hinner, _, hlength⟩ := pkcs8?_eq_some_iff.1 hbytes
    obtain ⟨coefficient, hc, _⟩ := pkcs1?_eq_some_iff.1 hinner
    refine ⟨k.exists_coefficient?_iff.1 ⟨coefficient, hc⟩, fun other hother => ?_⟩
    rw [hinner] at hother
    exact Option.some.inj hother ▸ hlength
  · intro h
    obtain ⟨coefficient, hc⟩ := k.exists_coefficient?_iff.2 h.coprime
    have hinner := pkcs1?_eq_some_iff.2 ⟨coefficient, hc, rfl⟩
    have hbytes := pkcs8?_eq_some_iff.2 ⟨_, hinner, rfl, h.length _ hinner⟩
    exact ⟨_, writeKey_eq_ok_iff.2 (Option.map_eq_some_iff.2 ⟨_, hbytes, rfl⟩)⟩

theorem readKey_of_writeKey (h : writeKey k = .ok pem) : readKey pem = .ok k :=
  readKey_eq_ok_iff.2 (ofPem?_pkcs8Pem? (writeKey_eq_ok_iff.1 h))

/-! ## Layouts -/

inductive Form
  | pkcs1
  | pkcs8
  deriving DecidableEq, Repr

def Form.label : Form → String
  | .pkcs1 => pkcs1Label
  | .pkcs8 => pkcs8Label

/-- One way to write keys: a form, the three numbers that are not read, and a line end. -/
structure Layout where
  form : Form
  exponent1 : Nat
  exponent2 : Nat
  coefficient : Nat
  lineEnd : Pem.LineEnd
  deriving DecidableEq, Repr

namespace Layout

def octets (layout : Layout) (k : PrivateKey) : Octets :=
  let inner := k.pkcs1Form layout.exponent1 layout.exponent2 layout.coefficient
  match layout.form with
  | .pkcs1 => inner
  | .pkcs8 => wrapped inner

def text (layout : Layout) (k : PrivateKey) : String :=
  Pem.encodeWith layout.lineEnd layout.form.label (layout.octets k)

theorem decode?_pkcs8Label (lineEnd : Pem.LineEnd) (contents : Octets) :
    Pem.decode? pkcs8Label (Pem.encodeWith lineEnd pkcs1Label contents) = none := by
  rw [Pem.decode?, Pem.encodeWith, String.toList_ofList]
  simp only [List.append_assoc, Pem.afterOpening?_opening, Option.bind_eq_bind, Option.bind_some]
  rfl

theorem readKey_text (layout : Layout) (h : (layout.octets k).length ≤ Der.maxLength) :
    readKey (layout.text k) = .ok k := by
  rw [readKey_eq_ok_iff, ofPem?]
  obtain ⟨form, exponent1, exponent2, coefficient, lineEnd⟩ := layout
  have hne : (wrapped (k.pkcs1Form exponent1 exponent2 coefficient)) ≠ [] := List.cons_ne_nil _ _
  have hne' : k.pkcs1Form exponent1 exponent2 coefficient ≠ [] := List.cons_ne_nil _ _
  cases form with
  | pkcs1 =>
    have hread := Pem.decode?_encodeWith lineEnd pkcs1Label hne'
    simp only [text, octets, Form.label] at h ⊢
    rw [decode?_pkcs8Label, hread, Option.bind_some, ofPkcs1?_pkcs1Form h]
    rfl
  | pkcs8 =>
    have hread := Pem.decode?_encodeWith lineEnd pkcs8Label hne
    simp only [text, octets, Form.label] at h ⊢
    have hinner := Nat.le_trans (length_le_wrapped _) h
    rw [hread, Option.bind_some, ofPkcs8?_wrapped h, ofPkcs1?_pkcs1Form hinner]
    rfl

end Layout

/-! ## Keys that cannot be written -/

/-- A key with two equal factors. -/
def squareKey : PrivateKey :=
  ⟨⟨9, 3, 1, 3, 3⟩, by decide⟩

/-- A key whose private exponent has `n` octets or more. -/
def longKey (n : Nat) : PrivateKey where
  modulus := 15
  publicExponent := 3
  privateExponent := 3 + 4 * 256 ^ n
  prime1 := 5
  prime2 := 3
  consistent := by
    have hfixed : 15 = 5 * 3 ∧ 1 < 5 ∧ 1 < 3 ∧ 15 % 2 = 1 ∧ 3 < 15 ∧ 3 % 2 = 1 ∧ 2 ≤ 3
        ∧ 3 ≤ maxPublicExponent := by decide
    obtain ⟨h₁, h₂, h₃, h₄, h₅, h₆, h₇, h₈⟩ := hfixed
    refine ⟨h₁, h₂, h₃, h₄, h₅, h₆, h₇, h₈, ?_, ?_⟩
    · show 3 * (3 + 4 * 256 ^ n) % 4 = 1
      omega
    · show 3 * (3 + 4 * 256 ^ n) % 2 = 1
      omega

/-- All numbers but one are short. -/
theorem length_longKey {n : Nat} (hn : n + 38 ≤ Der.maxLength) :
    n + 27 ≤ ((longKey n).pkcs1Form 3 1 2).length
      ∧ ((longKey n).pkcs1Form 3 1 2).length ≤ n + 38 := by
  have hbound : n + 39 ≤ Der.maxContent := Nat.le_trans (Nat.succ_le_succ hn) (by decide)
  have hpos : 0 < 256 ^ n := Nat.pow_pos (by decide)
  have hlower := Octets.lt_lengthOfNat (show 256 ^ n ≤ 3 + 4 * 256 ^ n by omega)
  have hupper : Octets.lengthOfNat (3 + 4 * 256 ^ n) ≤ n + 1 :=
    Octets.lengthOfNat_le (by omega) (by rw [Nat.pow_succ]; omega)
  have hlong := Der.lengthOfNat_lt_natural (3 + 4 * 256 ^ n)
  have hdigits := Der.length_naturalContent_le (3 + 4 * 256 ^ n)
  have hnatural := Der.length_element_le Der.integerTag
    (Nat.lt_of_le_of_lt (Nat.le_trans hdigits (Nat.succ_le_succ hupper)) (by omega))
  rw [← Der.natural_eq] at hnatural
  obtain ⟨content, hform, hcontent⟩ : ∃ content,
      (longKey n).pkcs1Form 3 1 2 = Der.element Der.sequenceTag content
        ∧ content.length = (Der.natural (3 + 4 * 256 ^ n)).length + 24 := by
    have hshort : (Der.natural 0).length = 3 ∧ (Der.natural 1).length = 3
        ∧ (Der.natural 2).length = 3 ∧ (Der.natural 3).length = 3 ∧ (Der.natural 5).length = 3
        ∧ (Der.natural 15).length = 3 := by decide
    refine ⟨_, rfl, ?_⟩
    simp only [longKey, List.map_cons, List.map_nil, List.flatten_cons, List.flatten_nil,
      List.length_append, List.length_nil]
    omega
  have hbelow := Der.length_lt_element Der.sequenceTag content
  have habove := Der.length_element_le Der.sequenceTag (show content.length < Der.maxContent by omega)
  rw [hform]
  omega

theorem pkcs1?_longKey (n : Nat) : (longKey n).pkcs1? = some ((longKey n).pkcs1Form 3 1 2) := by
  have hcoefficient : (longKey n).coefficient? = some 2 := by
    show inverseMod? 3 5 = some 2
    decide +kernel
  have hexponent1 : (longKey n).privateExponent % ((longKey n).prime1 - 1) = 3 := by
    show (3 + 4 * 256 ^ n) % 4 = 3
    omega
  have hexponent2 : (longKey n).privateExponent % ((longKey n).prime2 - 1) = 1 := by
    show (3 + 4 * 256 ^ n) % 2 = 1
    omega
  refine pkcs1?_eq_some_iff.2 ⟨2, hcoefficient, ?_⟩
  rw [hexponent1, hexponent2]

/-- The longest forms can be read, but not be wrapped. -/
theorem readKey_longKey {n : Nat} (hn : n + 38 ≤ Der.maxLength) (hmax : Der.maxLength < n + 47) :
    readKey ((Layout.mk .pkcs1 3 1 2 .lineFeed).text (longKey n)) = .ok (longKey n)
      ∧ ¬(longKey n).IsWritable := by
  obtain ⟨hlower, hupper⟩ := length_longKey hn
  refine ⟨Layout.readKey_text _ (Nat.le_trans hupper hn), fun h => ?_⟩
  have hle := le_length_wrapped ((longKey n).pkcs1Form 3 1 2)
  have hlength := h.length _ (pkcs1?_longKey n)
  omega

end Acme.Rsa
