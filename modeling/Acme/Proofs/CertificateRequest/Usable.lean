import Acme.Proofs.CertificateRequest

/-!
# Which configurations lead to a request

Requests are made for keys of 2048, 3072 and 4096 bits, and for domains that are ASCII or the
notation of an address. With a new key of another size, or with another domain, no request can be
made; `obstacle?` tells from the size and the domains alone what stands in the way, and
`create_of_isGenerated` that nothing else does.
-/

namespace Acme.CertificateRequest

open Rsa

/-! ## Keys -/

/-- The sizes of new keys that can sign requests. -/
def IsUsableSize (bits : Nat) : Prop :=
  bits = 2048 ∨ bits = 3072 ∨ bits = 4096

instance (bits : Nat) : Decidable (IsUsableSize bits) :=
  inferInstanceAs (Decidable (_ ∨ _))

variable {k : PrivateKey} {bits : Nat}

theorem acceptsKey_iff (hk : k.IsGenerated bits) : AcceptsKey k ↔ IsUsableSize bits := by
  have hexponent : 65537 ≤ k.publicExponent := Nat.le_of_eq hk.publicExponent.symm
  have hmodulus := hk.modulus
  rw [AcceptsKey, IsUsableSize]
  by_cases heven : bits % 2 = 0
  · obtain ⟨hprime1, hprime2⟩ := hk.halves heven
    rw [hmodulus, hprime1, hprime2]
    omega
  · rw [hmodulus]
    omega

/-! ## Domains -/

/-- The domain can stand in a request. -/
def isUsableName (domain : String) : Bool :=
  (IpAddress.parse? domain).isSome || Text.isAscii domain.toList

theorem isSome_ofDomain? (domain : String) :
    (AltName.ofDomain? domain).isSome = isUsableName domain := by
  rw [AltName.ofDomain?, isUsableName]
  cases IpAddress.parse? domain with
  | some ip => rfl
  | none =>
    rw [Option.isSome_none, Bool.false_or]
    dsimp only
    split
    · next hascii => rw [hascii, Option.isSome_some]
    · next hascii => rw [Option.isSome_none, Bool.eq_false_of_not_eq_true hascii]

/-- The entries are found, or the first domain that is not usable is the error. -/
theorem altNamesOf_cases (domains : List String) :
    (∃ names, altNamesOf domains = .ok names ∧ domains.find? (fun d => !isUsableName d) = none)
      ∨ ∃ domain, altNamesOf domains = .error (.unusableName domain)
        ∧ domains.find? (fun d => !isUsableName d) = some domain := by
  induction domains with
  | nil => exact .inl ⟨[], rfl, rfl⟩
  | cons domain rest ih =>
    have husable := isSome_ofDomain? domain
    rw [altNamesOf]
    cases hname : AltName.ofDomain? domain with
    | none =>
      rw [hname, Option.isSome_none] at husable
      exact .inr ⟨domain, rfl, List.find?_cons_of_pos (by rw [← husable]; rfl)⟩
    | some name =>
      rw [hname, Option.isSome_some] at husable
      have hskip : (domain :: rest).find? (fun d => !isUsableName d)
          = rest.find? fun d => !isUsableName d :=
        List.find?_cons_of_neg (by rw [← husable]; exact Bool.false_ne_true)
      rw [hskip]
      dsimp only
      rcases ih with ⟨names, hnames, hnone⟩ | ⟨other, herror, hsome⟩
      · exact .inl ⟨name :: names, by rw [hnames]; rfl, hnone⟩
      · exact .inr ⟨other, by rw [herror]; rfl, hsome⟩

/-! ## Requests -/

/-- Why no request can be made over these domains with a new key of this size. -/
def obstacle? (bits : Nat) (domains : List String) : Option CryptoError :=
  if IsUsableSize bits then
    (domains.find? fun domain => !isUsableName domain).map .unusableName
  else some .unusableKey

theorem create_of_isGenerated (hk : k.IsGenerated bits) {pem : String}
    (hpem : k.pkcs8Pem? = some pem) (hbits : 2048 ≤ bits ∧ bits ≤ 8192) {domains : List String}
    (hne : domains ≠ []) :
    (∀ e, obstacle? bits domains = some e → create pem domains = .error e)
      ∧ (obstacle? bits domains = none → ∃ request, create pem domains = .ok request) := by
  obtain ⟨primary, rest, rfl⟩ := List.exists_cons_of_ne_nil hne
  have hread := PrivateKey.ofPem?_pkcs8Pem? hpem
  obtain ⟨coefficient, hcoefficient⟩ := PrivateKey.coefficient?_of_pkcs8Pem? hpem
  have hcoded : k.pkcs8Pem? ≠ none := by
    rw [hpem]
    exact Option.some_ne_none _
  rw [obstacle?]
  by_cases husable : IsUsableSize bits
  · have haccepts := (acceptsKey_iff hk).2 husable
    rw [if_pos husable]
    rcases altNamesOf_cases (primary :: rest) with ⟨names, hnames, hnone⟩ | ⟨domain, herror, hsome⟩
    · have hsize := hk.size_eq (by omega)
      obtain ⟨signature, hsign⟩ := PrivateKey.exists_sign? hk.prime1 hk.prime2 hcoefficient
        (show 62 ≤ k.size by omega) (infoDer primary k.publicKey names)
      rw [hnone]
      exact ⟨fun e he => (by cases he),
        fun _ => ⟨_, create_of_sign? hread hcoded haccepts hnames hsign⟩⟩
    · have hcreate : create pem (primary :: rest) = .error (.unusableName domain) := by
        rw [create, hread]
        simp only [hcoded, haccepts, not_true, if_false, herror]
      rw [hsome, hcreate]
      exact ⟨fun e he => congrArg Except.error (Option.some.inj he), fun h => (by cases h)⟩
  · have hrefused : ¬AcceptsKey k := fun haccepts => husable ((acceptsKey_iff hk).1 haccepts)
    have hcreate : create pem (primary :: rest) = .error .unusableKey := by
      rw [create, hread]
      simp only [hcoded, hrefused, not_false_eq_true, if_false, if_true]
    rw [if_neg husable, hcreate]
    exact ⟨fun e he => congrArg Except.error (Option.some.inj he), fun h => (by cases h)⟩

end Acme.CertificateRequest
